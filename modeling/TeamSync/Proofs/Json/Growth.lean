import Mathlib.Data.List.Pairwise
import TeamSync.Proofs.Json.Grammar
import TeamSync.Proofs.Json.Objects

/-!
Answers that grow. The objects of a text that are read as declared records may get members that the
records do not declare, and all their members may change places. A decoder that follows the shape of
what it reads does not notice.
-/

namespace TeamSync.Json

/-! ### Growth -/

/-- Where the declared records of a value are: nowhere, in each element of a list, or in the value
itself, which is then a record with fields of these names and shapes. -/
inductive Shape where
  | leaf
  | list (s : Shape)
  | record (fields : List (String × Shape))

/-- A name that none of some fields has. -/
def Undeclared (fs : List (String × Shape)) (k : StringLiteral) : Prop :=
  ∃ name, k.read = .ok name ∧ name ∉ fs.map Prod.fst

mutual

/-- A value of some shape grows: in the objects of its records members that are not declared are
inserted, and then all members are permuted. -/
inductive Grows : Shape → Node → Node → Prop where
  | same (s : Shape) (n : Node) : Grows s n n
  | list {s : Shape} {ns ns' : List Node} (h : GrowAll s ns ns') :
      Grows (.list s) (.array ns .closed) (.array ns' .closed)
  | object {fs : List (String × Shape)} {ms core more ms' : Written} (h : GrowMembers fs ms core)
      (hmore : ∀ m ∈ more, Undeclared fs m.1) (hperm : (core ++ more).Perm ms') :
      Grows (.record fs) (.object ms .closed) (.object ms' .closed)
  /-- A record that is written as the array of its fields grows in these. -/
  | array {fs : List (String × Shape)} {ns ns' : List Node} (h : GrowFields fs ns ns') :
      Grows (.record fs) (.array ns .closed) (.array ns' .closed)

/-- Values of one shape grow, each for itself. -/
inductive GrowAll : Shape → List Node → List Node → Prop where
  | nil (s : Shape) : GrowAll s [] []
  | cons {s : Shape} {n n' : Node} {ns ns' : List Node} (h : Grows s n n') (hs : GrowAll s ns ns') :
      GrowAll s (n :: ns) (n' :: ns')

/-- The values of declared members grow, each by the shape of its field. -/
inductive GrowMembers : List (String × Shape) → Written → Written → Prop where
  | nil (fs : List (String × Shape)) : GrowMembers fs [] []
  | declared {fs : List (String × Shape)} {name : String} {s : Shape} {k : StringLiteral}
      {n n' : Node} {ms ms' : Written} (hf : (name, s) ∈ fs) (hk : k.read = .ok name)
      (h : Grows s n n') (hs : GrowMembers fs ms ms') :
      GrowMembers fs ((k, n) :: ms) ((k, n') :: ms')
  | kept {fs : List (String × Shape)} {ms ms' : Written} (m : StringLiteral × Node)
      (hs : GrowMembers fs ms ms') : GrowMembers fs (m :: ms) (m :: ms')

/-- The elements of an array of fields grow, each by the shape of its field. -/
inductive GrowFields : List (String × Shape) → List Node → List Node → Prop where
  | kept (fs : List (String × Shape)) (ns : List Node) : GrowFields fs ns ns
  | cons {name : String} {s : Shape} {fs : List (String × Shape)} {n n' : Node}
      {ns ns' : List Node} (h : Grows s n n') (hs : GrowFields fs ns ns') :
      GrowFields ((name, s) :: fs) (n :: ns) (n' :: ns')

end

/-- A decoder follows a shape: what it reads from a well-formed value, it reads from whatever that
grows into. -/
def Decoder.Follows {α : Type} (d : Decoder α) (s : Shape) : Prop :=
  ∀ depth n n' a, Grows s n n' → n.skim = .ok () → n'.skim = .ok () →
    d depth n = .ok a → d depth n' = .ok a

lemma Grows.eq_null_iff {s : Shape} {n n' : Node} (h : Grows s n n') : n = .null ↔ n' = .null := by
  cases h <;> simp

/-! ### Members that are passed over -/

lemma skimMembers_perm {ms ms' : Written} (h : ms.Perm ms') (hs : skimMembers ms = .ok ()) :
    skimMembers ms' = .ok () := by
  rw [skimMembers_iff] at hs ⊢
  exact fun m hm => hs m (h.mem_iff.mpr hm)

/-! ### Decoders of parts -/

namespace Decoder

variable {α β : Type} {s : Shape}

lemma follows_leaf (d : Decoder α) : d.Follows .leaf := by
  intro depth n n' a h _ _ hd
  cases h
  exact hd

lemma Follows.map {d : Decoder α} (hd : d.Follows s) (f : α → β) : (d.map f).Follows s := by
  intro depth n n' b h hs hs' hb
  obtain ⟨a, ha, rfl⟩ := map_eq_ok_iff.mp hb
  exact map_eq_ok_iff.mpr ⟨a, hd depth n n' a h hs hs' ha, rfl⟩

lemma Follows.nullable {d : Decoder α} (hd : d.Follows s) : d.nullable.Follows s := by
  intro depth n n' x h hs hs' hx
  rcases nullable_eq_ok_iff.mp hx with ⟨hn, hx⟩ | ⟨hn, a, ha, hx⟩
  · exact nullable_eq_ok_iff.mpr (.inl ⟨h.eq_null_iff.mp hn, hx⟩)
  · refine nullable_eq_ok_iff.mpr (.inr ⟨fun hn' => hn (h.eq_null_iff.mpr hn'), a, ?_, hx⟩)
    exact hd depth n n' a h hs hs' ha

/-- Values that grow each for itself are read each for itself. -/
lemma Follows.all {d : Decoder α} (hd : d.Follows s) {depth : ℕ} :
    ∀ {ns ns' : List Node} {as : List α}, GrowAll s ns ns' → (∀ n ∈ ns, n.skim = .ok ()) →
      (∀ n ∈ ns', n.skim = .ok ()) → List.Forall₂ (fun n a => d depth n = .ok a) ns as →
        List.Forall₂ (fun n a => d depth n = .ok a) ns' as
  | _, _, _, .nil _, _, _, hread => hread
  | _, _, _, .cons h hs, hskim, hskim', .cons hn hns => by
    rw [List.forall_mem_cons] at hskim hskim'
    exact .cons (hd depth _ _ _ h hskim.1 hskim'.1 hn) (hd.all hs hskim.2 hskim'.2 hns)

lemma Follows.list {d : Decoder α} (hd : d.Follows s) : d.list.Follows (.list s) := by
  intro depth n n' as h hs hs' has
  cases h with
  | same => exact has
  | list h =>
    rcases depth with _ | depth
    · cases has
    rw [list_eq_ok_iff] at has ⊢
    exact hd.all h (skim_array_iff.mp hs).2 (skim_array_iff.mp hs').2 has

/-- What is read from a text is read from whatever the text grows into. -/
theorem Follows.decode {d : Decoder α} (hd : d.Follows s) {text text' : List UInt8} {n n' : Node}
    (ht : IsText text n) (ht' : IsText text' n') (h : Grows s n n') {a : α}
    (ha : d.decode text = .ok a) : d.decode text' = .ok a := by
  rw [decode_of_scan ht.scan] at ha
  rw [decode_of_scan ht'.scan]
  exact hd depthLimit n n' a h ht.skim ht'.skim ha

end Decoder

/-! ### Records -/

namespace Field

variable {ρ α β : Type} {absence absence' : Absence} {name name' : String} {d : Decoder α}
  {e : Decoder β} {set : α → ρ → ρ} {set' : β → ρ → ρ}

/-- Two fields that change a record in the same way in either order. -/
def Commutes (f g : Field ρ) : Prop :=
  ∀ depth n m change change', f.read depth n = .ok change → g.read depth m = .ok change' →
    ∀ x, change (change' x) = change' (change x)

instance : Std.Symm (Commutes (ρ := ρ)) :=
  ⟨fun _ _ h depth n m change change' hf hg x => (h depth m n change' change hg hf x).symm⟩

lemma commutes_make (h : ∀ a b x, set a (set' b x) = set' b (set a x)) :
    (make absence name d set).Commutes (make absence' name' e set') := by
  intro depth n m change change' hf hg x
  obtain ⟨a, -, rfl⟩ := read_make_eq_ok.mp hf
  obtain ⟨b, -, rfl⟩ := read_make_eq_ok.mp hg
  exact h a b x

/-- A field that has a name and follows a shape. -/
def Fits (f : Field ρ) (field : String × Shape) : Prop :=
  f.name = field.1 ∧ f.read.Follows field.2

lemma fits_make {s : Shape} (hd : d.Follows s) : (make absence name d set).Fits (name, s) :=
  ⟨rfl, hd.map set⟩

end Field

namespace Record

variable {ρ : Type} {r : Record ρ} {fs : List (String × Shape)} {depth : ℕ} {p p' q : Progress ρ}
  {ms ms' core more : Written}

/-- A record has fields of some names and shapes, and it makes no difference in which order they
are read. -/
structure Conforms (r : Record ρ) (fs : List (String × Shape)) : Prop where
  distinct : (r.fields.map (·.name)).Nodup
  commute : r.fields.Pairwise Field.Commutes
  fits : List.Forall₂ Field.Fits r.fields fs

namespace Conforms

lemma names (h : r.Conforms fs) : r.fields.map (·.name) = fs.map Prod.fst := by
  have hfits := h.fits
  clear h
  generalize r.fields = gs at hfits
  induction hfits with
  | nil => rfl
  | cons hf _ ih => rw [List.map_cons, List.map_cons, hf.1, ih]

lemma exists_field (h : r.Conforms fs) {name : String} {s : Shape} (hf : (name, s) ∈ fs) :
    ∃ f ∈ r.fields, f.Fits (name, s) := by
  have hfits := h.fits
  clear h
  generalize r.fields = gs at hfits
  induction hfits with
  | nil => cases hf
  | @cons f field _ _ hf' _ ih =>
    rcases List.mem_cons.mp hf with rfl | hf
    · exact ⟨f, List.mem_cons_self, hf'⟩
    · obtain ⟨g, hg, hfits⟩ := ih hf
      exact ⟨g, List.mem_cons_of_mem f hg, hfits⟩

lemma commutes (h : r.Conforms fs) {f g : Field ρ} (hf : f ∈ r.fields) (hg : g ∈ r.fields)
    (hne : f.name ≠ g.name) : f.Commutes g :=
  h.commute.forall hf hg fun heq => hne (congrArg Field.name heq)

end Conforms

/-! ### Members in parts -/

lemma readMembers_append (r : Record ρ) (p : Progress ρ) (ms ms' : Written) :
    r.readMembers depth p (ms ++ ms') =
      r.readMembers depth p ms >>= fun q => r.readMembers depth q ms' := by
  induction ms generalizing p with
  | nil => rfl
  | cons m ms ih =>
    obtain ⟨k, n⟩ := m
    simp only [List.cons_append, readMembers, bind_assoc, ih]

lemma readMembers_append_eq_ok : r.readMembers depth p (ms ++ ms') = .ok q ↔
    ∃ p', r.readMembers depth p ms = .ok p' ∧ r.readMembers depth p' ms' = .ok q := by
  rw [readMembers_append, bind_eq_ok_iff]

/-- A member is read before the members after it, whatever these are. -/
lemma readMembers_cons_eq_ok {m : StringLiteral × Node} :
    r.readMembers depth p (m :: ms) = .ok q ↔
      ∃ p', r.readMembers depth p [m] = .ok p' ∧ r.readMembers depth p' ms = .ok q := by
  rw [← List.singleton_append, readMembers_append_eq_ok]

/-! ### Members in another order -/

/-- The same value so far, of the same fields in whatever order. -/
structure Progress.Alike (p q : Progress ρ) : Prop where
  value : p.value = q.value
  seen : ∀ name, name ∈ p.seen ↔ name ∈ q.seen

lemma Progress.Alike.refl (p : Progress ρ) : p.Alike p := ⟨rfl, fun _ => .rfl⟩

lemma Progress.Alike.trans {p q q' : Progress ρ} (h : p.Alike q) (h' : q.Alike q') : p.Alike q' :=
  ⟨h.value.trans h'.value, fun name => (h.seen name).trans (h'.seen name)⟩

lemma Progress.Alike.add (h : p.Alike p') (change : ρ → ρ) (name : String) :
    Progress.Alike ⟨change p.value, name :: p.seen⟩ ⟨change p'.value, name :: p'.seen⟩ :=
  ⟨congrArg change h.value, fun other => by rw [List.mem_cons, List.mem_cons, h.seen]⟩

/-- What the members add does not depend on the order of the fields before them. -/
lemma readMembers_alike (hr : (r.fields.map (·.name)).Nodup) (hs : skimMembers ms = .ok ())
    (h : p.Alike p') (hq : r.readMembers depth p ms = .ok q) :
    ∃ q', r.readMembers depth p' ms = .ok q' ∧ q.Alike q' := by
  induction ms generalizing p p' with
  | nil =>
    cases hq
    exact ⟨p', rfl, h⟩
  | cons m ms ih =>
    obtain ⟨k, n⟩ := m
    obtain ⟨-, hn, hrest⟩ := skimMembers_cons_iff.mp hs
    rcases (readMembers_cons_iff hr hn).mp hq with
      ⟨f, hf, hk, hnew, change, hchange, hq⟩ | ⟨key, hk, hne, hq⟩
    · obtain ⟨q', hq', halike⟩ := ih hrest (h.add change f.name) hq
      have hnew' : f.name ∉ p'.seen := fun hm => hnew ((h.seen f.name).mpr hm)
      exact ⟨q', (readMembers_cons_iff hr hn).mpr
        (.inl ⟨f, hf, hk, hnew', change, hchange, hq'⟩), halike⟩
    · obtain ⟨q', hq', halike⟩ := ih hrest h hq
      exact ⟨q', (readMembers_cons_iff hr hn).mpr (.inr ⟨key, hk, hne, hq'⟩), halike⟩

/-- Two members may change places. -/
lemma readMembers_swap (hc : r.Conforms fs) {m m' : StringLiteral × Node}
    (hs : skimMembers (m :: m' :: ms) = .ok ())
    (hq : r.readMembers depth p (m :: m' :: ms) = .ok q) :
    ∃ q', r.readMembers depth p (m' :: m :: ms) = .ok q' ∧ q.Alike q' := by
  have hr := hc.distinct
  obtain ⟨k, n⟩ := m
  obtain ⟨k', n'⟩ := m'
  obtain ⟨-, hn, hs'⟩ := skimMembers_cons_iff.mp hs
  obtain ⟨-, hn', hrest⟩ := skimMembers_cons_iff.mp hs'
  simp only [readMembers_cons_iff hr hn, readMembers_cons_iff hr hn'] at hq ⊢
  rcases hq with ⟨f, hf, hk, hnew, change, hchange, hq⟩ | ⟨key, hk, hne, hq⟩ <;>
    rcases hq with ⟨g, hg, hk', hnew', change', hchange', hq⟩ | ⟨key', hk', hne', hq⟩
  · -- both belong to fields, and these are different
    rw [List.mem_cons, not_or] at hnew'
    have hswap : Progress.Alike ⟨change' (change p.value), g.name :: f.name :: p.seen⟩
        ⟨change (change' p.value), f.name :: g.name :: p.seen⟩ := by
      refine ⟨?_, fun name => ?_⟩
      · exact hc.commutes hg hf hnew'.1 _ _ _ _ _ hchange' hchange _
      · simp only [List.mem_cons]
        tauto
    obtain ⟨q', hq', halike⟩ := readMembers_alike hr hrest hswap hq
    refine ⟨q', .inl ⟨g, hg, hk', hnew'.2, change', hchange', .inl ⟨f, hf, hk, ?_, change,
      hchange, hq'⟩⟩, halike⟩
    rw [List.mem_cons, not_or]
    exact ⟨Ne.symm hnew'.1, hnew⟩
  · exact ⟨q, .inr ⟨key', hk', hne', .inl ⟨f, hf, hk, hnew, change, hchange, hq⟩⟩, .refl q⟩
  · exact ⟨q, .inl ⟨g, hg, hk', hnew', change', hchange', .inr ⟨key, hk, hne, hq⟩⟩, .refl q⟩
  · exact ⟨q, .inr ⟨key', hk', hne', .inr ⟨key, hk, hne, hq⟩⟩, .refl q⟩

/-- **Members may be permuted**, by induction on the permutation. -/
theorem readMembers_perm (hc : r.Conforms fs) (h : ms.Perm ms') (hs : skimMembers ms = .ok ())
    (hq : r.readMembers depth p ms = .ok q) :
    ∃ q', r.readMembers depth p ms' = .ok q' ∧ q.Alike q' := by
  induction h generalizing p q with
  | nil => exact ⟨q, hq, .refl q⟩
  | cons m h ih =>
    obtain ⟨p', hm, hq⟩ := readMembers_cons_eq_ok.mp hq
    obtain ⟨q', hq', halike⟩ := ih (skimMembers_cons_iff.mp hs).2.2 hq
    exact ⟨q', readMembers_cons_eq_ok.mpr ⟨p', hm, hq'⟩, halike⟩
  | swap m m' ms => exact readMembers_swap hc hs hq
  | trans h _ ih ih' =>
    obtain ⟨q₁, hq₁, halike⟩ := ih hs hq
    obtain ⟨q₂, hq₂, halike'⟩ := ih' (skimMembers_perm h hs) hq₁
    exact ⟨q₂, hq₂, halike.trans halike'⟩

/-! ### Members that grow -/

/-- Members that are not declared are passed over. -/
lemma readMembers_undeclared (hc : r.Conforms fs) (h : ∀ m ∈ more, Undeclared fs m.1)
    (hs : skimMembers more = .ok ()) (p : Progress ρ) : r.readMembers depth p more = .ok p := by
  induction more with
  | nil => rfl
  | cons m more ih =>
    obtain ⟨k, n⟩ := m
    obtain ⟨-, hn, hrest⟩ := skimMembers_cons_iff.mp hs
    rw [List.forall_mem_cons] at h
    obtain ⟨⟨name, hk, hname⟩, hmore⟩ := h
    rw [← hc.names] at hname
    have hne : ∀ f ∈ r.fields, f.name ≠ name := by simpa using hname
    exact (readMembers_cons_iff hc.distinct hn).mpr (.inr ⟨name, hk, hne, ih hmore hrest⟩)

/-- Members of fields that grow are read as they were. -/
lemma readMembers_grown (hc : r.Conforms fs) : ∀ {ms ms' : Written} {p : Progress ρ},
    GrowMembers fs ms ms' → skimMembers ms = .ok () → skimMembers ms' = .ok () →
      r.readMembers depth p ms = .ok q → r.readMembers depth p ms' = .ok q
  | _, _, _, .nil _, _, _, hq => hq
  | _, _, _, .declared hf hk h hs, hskim, hskim', hq => by
    obtain ⟨-, hn, hrest⟩ := skimMembers_cons_iff.mp hskim
    obtain ⟨-, hn', hrest'⟩ := skimMembers_cons_iff.mp hskim'
    obtain ⟨f, hmem, hname, hread⟩ := hc.exists_field hf
    rcases (readMembers_cons_iff hc.distinct hn).mp hq with
      ⟨g, hg, hkg, hnew, change, hchange, hq⟩ | ⟨key, hkey, hne, -⟩
    · obtain rfl : f = g := List.inj_on_of_nodup_map hc.distinct hmem hg
        (hname.trans (Except.ok.inj (hk.symm.trans hkg)))
      exact (readMembers_cons_iff hc.distinct hn').mpr (.inl ⟨f, hg, hkg, hnew, change,
        hread depth _ _ change h hn hn' hchange, readMembers_grown hc hs hrest hrest' hq⟩)
    · exact absurd (hname.trans (Except.ok.inj (hk.symm.trans hkey))) (hne f hmem)
  | _, _, _, .kept m hs, hskim, hskim', hq => by
    obtain ⟨p', hm, hq⟩ := readMembers_cons_eq_ok.mp hq
    exact readMembers_cons_eq_ok.mpr ⟨p', hm, readMembers_grown hc hs
      (skimMembers_cons_iff.mp hskim).2.2 (skimMembers_cons_iff.mp hskim').2.2 hq⟩

/-- Elements that stand for fields that grow are read as they were. -/
lemma readElements_grown {total : String} : ∀ {gs : List (Field ρ)} {fs : List (String × Shape)}
    {ns ns' : List Node} {i : ℕ} {x : ρ} {y : ρ × List Node}, List.Forall₂ Field.Fits gs fs →
      GrowFields fs ns ns' → (∀ n ∈ ns, n.skim = .ok ()) → (∀ n ∈ ns', n.skim = .ok ()) →
        readElements total depth .closed i x gs ns = .ok y →
          readElements total depth .closed i x gs ns' = .ok y
  | _, _, _, _, _, _, _, _, .kept _ _, _, _, hy => hy
  | f :: _, _, n :: _, _, _, _, _, .cons hf hfs, .cons h hs, hskim, hskim', hy => by
    rw [List.forall_mem_cons] at hskim hskim'
    rw [readElements, bind_eq_ok_iff] at hy ⊢
    obtain ⟨change, hchange, hy⟩ := hy
    exact ⟨change, hf.2 depth n _ change h hskim.1 hskim'.1 hchange,
      readElements_grown hfs hs hskim.2 hskim'.2 hy⟩

lemma complete_alike {q q' : Progress ρ} (h : q.Alike q') {x : ρ} (hx : r.complete q = .ok x) :
    r.complete q' = .ok x := by
  rw [complete_eq_ok] at hx ⊢
  exact ⟨fun f hf ha => (h.seen f.name).mp (hx.1 f hf ha), hx.2.trans h.value⟩

/-- **A record is read from whatever an object of it grows into.** -/
theorem Conforms.follows (hc : r.Conforms fs) : r.decoder.Follows (.record fs) := by
  intro depth n n' x h hs hs' hx
  cases h with
  | same => exact hx
  | @object _ ms core more ms' h hmore hperm =>
    rcases depth with _ | depth
    · cases hx
    obtain ⟨q, hq, hcomplete⟩ := decoder_eq_ok_iff.mp hx
    have hskim := (skim_object_iff.mp hs).2
    have hskim' := skimMembers_perm hperm.symm (skim_object_iff.mp hs').2
    obtain ⟨hcore, hadded⟩ : skimMembers core = .ok () ∧ skimMembers more = .ok () := by
      simp only [skimMembers_iff, List.mem_append] at hskim' ⊢
      exact ⟨fun m hm => hskim' m (.inl hm), fun m hm => hskim' m (.inr hm)⟩
    have hgrown : r.readMembers depth ⟨r.empty, []⟩ (core ++ more) = .ok q :=
      readMembers_append_eq_ok.mpr ⟨q, readMembers_grown hc h hskim hcore hq,
        readMembers_undeclared hc hmore hadded q⟩
    obtain ⟨q', hq', halike⟩ := readMembers_perm hc hperm hskim' hgrown
    exact decoder_eq_ok_iff.mpr ⟨q', hq', complete_alike halike hcomplete⟩
  | @array _ ns ns' h =>
    rcases depth with _ | depth
    · cases hx
    simp only [decoder, Decoder.nested, bind_eq_ok_iff] at hx ⊢
    obtain ⟨y, hy, hx⟩ := hx
    exact ⟨y, readElements_grown hc.fits h (skim_array_iff.mp hs).2 (skim_array_iff.mp hs').2 hy,
      hx⟩

end Record

end TeamSync.Json
