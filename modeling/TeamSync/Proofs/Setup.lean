import Mathlib.Data.Nat.Notation
import Mathlib.Tactic.Lemma
import TeamSync.Connector
import TeamSync.Proofs.Step

/-!
How a host comes to a connector: settings made one after the other, then a connector made for the
configuration they give. What is allowed and how long a page may be is what the last setting for it
says, and settings of other things have no influence on it.
-/

namespace TeamSync

/-- One setting of a configuration. -/
inductive Setting where
  | appKey (key : String)
  | appSecret (secret : String)
  | refreshToken (token : String)
  | baseUrl (url : String)
  | timeout (seconds : UInt64)
  | pageLimit (limit : ℕ)
  | allowed (kind : MutationKind) (tags : List String)

namespace Setting

def apply (c : Config) : Setting → Except Error Config
  | appKey key => .ok { c with appKey := key }
  | appSecret secret => .ok { c with appSecret := some secret }
  | refreshToken token => .ok { c with refreshToken := some token }
  | baseUrl url => c.setBaseUrl url
  | timeout seconds => .ok { c with timeoutSeconds := seconds }
  | pageLimit limit => .ok (c.setPageLimit limit)
  | allowed kind tags => .ok (c.setAllowed kind tags)

/-- The tags that a setting gives to a kind of mutation. -/
def tagsFor? (kind : MutationKind) : Setting → Option (List String)
  | allowed k tags => if k = kind then some tags else none
  | _ => none

/-- The page limit that a setting asks for. -/
def limit? : Setting → Option ℕ
  | pageLimit n => some n
  | _ => none

end Setting

namespace Config

/-- The configuration of some settings, made in order. -/
def ofSettings (ss : List Setting) : Except Error Config := ss.foldlM Setting.apply standard

/-- The tags that a kind of mutation accepts after some settings: those of the last setting for
this kind, or else those it accepts unless told otherwise. -/
def currentTags (ss : List Setting) (kind : MutationKind) : List String :=
  (ss.filterMap (Setting.tagsFor? kind)).getLast?.getD kind.defaultTags

lemma tags_of_apply {c d : Config} {x : Setting} (h : x.apply c = .ok d) (kind : MutationKind) :
    d.allowed.tags kind = (x.tagsFor? kind).getD (c.allowed.tags kind) := by
  cases x with
  | allowed k tags =>
    cases h
    by_cases hk : k = kind
    · simp [Setting.tagsFor?, setAllowed, AllowList.set, hk]
    · simp [Setting.tagsFor?, setAllowed, AllowList.set, hk, Ne.symm hk]
  | baseUrl url =>
    simp only [Setting.apply, setBaseUrl] at h
    split at h <;> cases h
    rfl
  | _ => cases h; rfl

/-- What some settings set and others leave alone is what the last of the former says. -/
lemma last_of_foldlM {β : Type} {value : Config → β} {asks : Setting → Option β}
    (hs : ∀ {c d x}, Setting.apply c x = .ok d → value d = (asks x).getD (value c))
    {ss : List Setting} {c d : Config} (h : ss.foldlM Setting.apply c = .ok d) :
    value d = (ss.filterMap asks).getLast?.getD (value c) := by
  induction ss generalizing c with
  | nil => cases h; rfl
  | cons x ss ih =>
    obtain ⟨b, hb, h⟩ : ∃ b, x.apply c = .ok b ∧ ss.foldlM Setting.apply b = .ok d := by
      rcases hx : x.apply c with e | b
      · simp [List.foldlM_cons, hx, bind, Except.bind] at h
      · exact ⟨b, rfl, by simpa [List.foldlM_cons, hx, bind, Except.bind] using h⟩
    rw [ih h, hs hb]
    rcases ht : asks x with _ | v
    · simp [ht]
    · rw [List.filterMap_cons_some ht, List.getLast?_cons]
      simp

/-- **The last setting for a kind decides** what it accepts. -/
theorem allowed_ofSettings {ss : List Setting} {c : Config} (h : ofSettings ss = .ok c)
    (kind : MutationKind) : c.allowed.tags kind = currentTags ss kind :=
  last_of_foldlM (fun h => tags_of_apply h kind) h

end Config

namespace Connector

/-- The ways to make a connector for a configuration. -/
inductive MadeFor (c : Config) : Connector → Prop where
  | ofClient (client : Client) : MadeFor c (.ofClient client c)
  | connect {source : Option TokenSource} {now : Instant} {s s₁ : Session} {k : Connector}
      (h : connect c source now s = (.ok k, s₁)) : MadeFor c k

/-- However a connector is made, it stands over a client. -/
lemma MadeFor.exists_client {c : Config} {k : Connector} (h : MadeFor c k) :
    ∃ client, k = .ofClient client c := by
  cases h with
  | ofClient client => exact ⟨client, rfl⟩
  | @connect source now s s₁ _ h =>
    rcases hv : c.validate with e | v
    · rw [Connector.connect, Step.bind_of_error (by rw [Step.ofExcept_apply, hv])] at h
      cases h
    rw [Connector.connect, Step.bind_of_ok (by rw [Step.ofExcept_apply, hv])] at h
    rcases ht : tokens c (.ofBase c.baseUrl) source now s with ⟨e | t, u⟩
    · rw [Step.bind_of_error ht] at h
      cases h
    · rw [Step.bind_of_ok ht] at h
      cases h
      exact ⟨_, rfl⟩

end Connector

end TeamSync
