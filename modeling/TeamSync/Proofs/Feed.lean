import TeamSync.Command
import TeamSync.Proofs.Drain

/-!
The listings of a connector that a host goes through page by page, as data. Each page of the host
is the page of a listing of the directory, its entries turned into something else.
-/

namespace TeamSync

namespace Groups

/-- What is logged of the entries that are left out. -/
def skippedLog (ms : List GroupMember) : List Event :=
  (ms.filter fun m => m.knownAccess?.isNone).map fun m =>
    ⟨.debug, "Skipping unknown access type",
      [("team_member_id", .text m.profile.memberId), ("access_type", .text m.access)], []⟩

lemma logSkipped_apply (ms : List GroupMember) (s : Session) :
    logSkipped ms s = (.ok (), s.noting (skippedLog ms)) :=
  Step.forM_log_apply ..

end Groups

/-- What a host goes through page by page. -/
inductive Feed where
  | users (parent : Option ResourceId)
  | groups (parent : Option ResourceId)
  | grants (group : Resource) (h : group.id.kind = .group)

namespace Feed

/-- The listing of the directory behind it. -/
def catalog : Feed → Catalog
  | .users _ => .members
  | .groups _ => .groups
  | .grants group _ => .groupMembers group.id.id

/-- What the host gets of it. -/
def Entry : Feed → Type
  | .users _ | .groups _ => Resource
  | .grants .. => Grant

/-- What the host gets of the entries of a page: a resource for each, or a grant for each whose
access is known. -/
def convert : (f : Feed) → List f.catalog.Item → List f.Entry
  | .users parent => Users.resources parent
  | .groups parent => Groups.resources parent
  | .grants group _ => Groups.grantsOf group

/-- What the host calls for the page of a token. -/
def page (k : Connector) : (f : Feed) → PageToken → Step (SyncPage f.Entry)
  | .users parent => (k.syncer .user).list parent
  | .groups parent => (k.syncer .group).list parent
  | .grants group _ => (k.syncer .group).grants group

/-- What is logged of the entries of a page. -/
def told : (f : Feed) → List f.catalog.Item → List Event
  | .users _ | .groups _ => fun _ => []
  | .grants .. => Groups.skippedLog

variable (k : Connector) (f : Feed)

@[simp] lemma convert_append (as bs : List f.catalog.Item) :
    f.convert (as ++ bs) = f.convert as ++ f.convert bs := by
  cases f
  · exact List.map_append
  · exact List.map_append
  · exact List.filterMap_append

variable {k f} {pt : PageToken} {s s₁ : Session}

lemma expectKind_apply {r : Resource} (h : r.id.kind = .group) (s : Session) :
    Step.ofExcept (r.id.expectKind .group) s = (.ok r.id.id, s) := by
  simp [ResourceId.expectKind, h]

/-- **The page of a host is the page of the listing behind it**, with its entries converted. -/
theorem page_of_ok {p : Page f.catalog.Item}
    (h : (f.catalog.pages k.directory).fetch pt s = (.ok p, s₁)) :
    f.page k pt s = (.ok (.ofPage p f.convert), s₁.noting (f.told p.items)) := by
  cases f with
  | users parent =>
    rw [told, Session.noting_nil]
    exact Step.bind_of_ok h _
  | groups parent =>
    rw [told, Session.noting_nil]
    exact Step.bind_of_ok h _
  | grants group hg =>
    refine (Step.bind_of_ok (expectKind_apply hg s) _).trans ((Step.bind_of_ok h _).trans ?_)
    exact Step.bind_of_ok (Groups.logSkipped_apply p.items s₁) _

/-- **The page of a host fails as the page of the listing behind it does.** -/
theorem page_of_error {e : Error}
    (h : (f.catalog.pages k.directory).fetch pt s = (.error e, s₁)) :
    f.page k pt s = (.error e, s₁) := by
  cases f with
  | users parent => exact Step.bind_of_error h _
  | groups parent => exact Step.bind_of_error h _
  | grants group hg =>
    exact (Step.bind_of_ok (expectKind_apply hg s) _).trans (Step.bind_of_error h _)

/-- What a host gets is converted from the page that the answer holds. -/
lemma items_of_page {page : SyncPage f.Entry} (h : (f.page k pt s).1 = .ok page) {a : Answer}
    (ha : s.transport.next? = some a) {p : Page f.catalog.Item}
    (hp : f.catalog.page? k.directory a = some p) : page.items = f.convert p.items := by
  rcases hf : (f.catalog.pages k.directory).fetch pt s with ⟨e | q, s₂⟩
  · rw [page_of_error hf] at h
    cases h
  · rw [page_of_ok hf] at h
    obtain ⟨_, b, _, -, -, hb, hq, -⟩ := Catalog.fetch_ok hf
    obtain rfl : a = b := by simpa [ha] using hb
    obtain rfl : p = q := by simpa [hp] using hq
    cases h
    rfl

/-! ### Commands -/

/-- The command for the page of a token. -/
def command : Feed → PageToken → Command
  | .users parent, pt => .list .user parent pt
  | .groups parent, pt => .list .group parent pt
  | .grants group _, pt => .grants .group group pt

/-- A page as it is replied. -/
def reply : (f : Feed) → SyncPage f.Entry → Reply
  | .users _ | .groups _ => .resources
  | .grants .. => .grants

@[simp] lemma next?_reply (page : SyncPage f.Entry) : (f.reply page).next? = some page.next := by
  cases f <;> rfl

lemma perform_eq (k : Connector) (f : Feed) (pt : PageToken) :
    k.perform (f.command pt) = f.reply <$> f.page k pt := by
  cases f <;> rfl

/-- What is replied is the page of the listing behind it, converted. -/
lemma perform_of_fetch {r : Except Error (Page f.catalog.Item)}
    (h : (f.catalog.pages k.directory).fetch pt s = (r, s₁)) :
    (k.perform (f.command pt) s).1 = r.map fun p => f.reply (.ofPage p f.convert) := by
  rw [perform_eq, Step.map_apply]
  rcases r with e | p
  · rw [page_of_error h]
    rfl
  · rw [page_of_ok h]
    rfl

lemma page_of_perform {page : SyncPage f.Entry}
    (h : (k.perform (f.command pt) s).1 = .ok (f.reply page)) : (f.page k pt s).1 = .ok page := by
  have hinj : ∀ p q, f.reply p = f.reply q → p = q := by
    cases f <;> exact fun p q h => by cases h; rfl
  rw [perform_eq, Step.map_apply] at h
  rcases hp : (f.page k pt s).1 with e | p <;> rw [hp] at h
  · cases h
  · exact congrArg _ (hinj p page (by simpa [Except.map] using h))

end Feed

end TeamSync
