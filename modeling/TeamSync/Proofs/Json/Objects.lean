import Mathlib.Data.List.Nodup
import Mathlib.Data.Nat.Notation
import Mathlib.Tactic.Lemma
import TeamSync.Json.Record
import TeamSync.Proofs.Json.ReadBack

/-!
A declared record that is read from an object as it stands in a text. Whether that goes well is
decided by the keys and by each declared member for itself, in whatever order they stand, and each
part of the record is then what the member of its name says.
-/

namespace TeamSync.Json

/-- The members of an object, as written. -/
abbrev Written := List (StringLiteral × Node)

namespace Written

/-- The keys that can be read, in order. -/
def keys (ms : Written) : List String := ms.filterMap fun m => m.1.read.toOption

/-- Under some key stands this node. -/
def Has (ms : Written) (key : String) (n : Node) : Prop := ∃ k, (k, n) ∈ ms ∧ k.read = .ok key

/-- Under some key stands this text. -/
def Says (ms : Written) (key text : String) : Prop :=
  ∃ s, ms.Has key (.string s) ∧ s.read = .ok text

variable {k : StringLiteral} {key key' : String} {n n' : Node} {ms : Written}

lemma keys_cons (h : k.read = .ok key) : keys ((k, n) :: ms) = key :: ms.keys := by
  simp [keys, h, Except.toOption]

lemma has_cons (h : k.read = .ok key) :
    Has ((k, n) :: ms) key' n' ↔ key' = key ∧ n' = n ∨ ms.Has key' n' := by
  simp only [Has, List.mem_cons, Prod.mk.injEq]
  grind

lemma Has.mem_keys (h : ms.Has key n) : key ∈ ms.keys := by
  obtain ⟨k, hm, hk⟩ := h
  exact List.mem_filterMap.mpr ⟨(k, n), hm, by rw [hk]; rfl⟩

lemma exists_has (h : key ∈ ms.keys) : ∃ n, ms.Has key n := by
  obtain ⟨⟨k, n⟩, hm, hk⟩ := List.mem_filterMap.mp h
  rcases hr : k.read with e | key'
  · simp [hr, Except.toOption] at hk
  · obtain rfl : key' = key := by simpa [hr, Except.toOption] using hk
    exact ⟨n, k, hm, hr⟩

/-- Under a key that comes once stands one node. -/
lemma Has.unique (h : ms.Has key n) (h' : ms.Has key n') (honce : ms.keys.count key ≤ 1) :
    n = n' := by
  induction ms with
  | nil =>
    obtain ⟨k, hm, -⟩ := h
    cases hm
  | cons m ms ih =>
    have hrest : (keys ms).count key ≤ 1 :=
      Nat.le_trans (((List.sublist_cons_self m ms).filterMap _).count_le key) honce
    have hhead {k : StringLiteral} {n : Node} (hm : m = (k, n)) (hk : k.read = .ok key) :
        ∀ n', ¬Has ms key n' := by
      intro n' h
      rw [hm, keys_cons hk, List.count_cons_self] at honce
      exact List.count_eq_zero.mp (by omega) h.mem_keys
    obtain ⟨k, hm, hk⟩ := h
    obtain ⟨k', hm', hk'⟩ := h'
    rcases List.mem_cons.mp hm with hm | hm <;> rcases List.mem_cons.mp hm' with hm' | hm'
    · rw [← hm'] at hm
      exact (Prod.mk.inj hm).2
    · exact absurd ⟨k', hm', hk'⟩ (hhead hm.symm hk n')
    · exact absurd ⟨k, hm, hk⟩ (hhead hm'.symm hk' n)
    · exact ih ⟨k, hm, hk⟩ ⟨k', hm', hk'⟩ hrest

end Written

/-- A text that is one object, well formed in all its parts, in which no key comes twice. -/
structure IsObject (body : List UInt8) (ms : Written) : Prop where
  scan : scan body = ⟨.object ms .closed, false⟩
  skim : skimMembers ms = .ok ()
  distinct : ms.keys.Nodup

lemma IsObject.decode_eq {α : Type} {body : List UInt8} {ms : Written} (h : IsObject body ms)
    (d : Decoder α) : d.decode body = d depthLimit (.object ms .closed) :=
  Decoder.decode_of_scan h.scan d

lemma skim_of_has {key : String} {n : Node} {ms : Written} (hs : skimMembers ms = .ok ())
    (h : ms.Has key n) : n.skim = .ok () := by
  obtain ⟨k, hm, -⟩ := h
  exact (skimMembers_iff.mp hs _ hm).2

/-! ### Objects that are printed -/

lemma keys_memberNodes (ms : List (String × Value)) :
    Written.keys (memberNodes ms) = ms.map Prod.fst := by
  induction ms with
  | nil => rfl
  | cons m ms ih => rw [memberNodes, Written.keys_cons (StringLiteral.read_ofString m.1), ih]; rfl

lemma has_memberNodes {ms : List (String × Value)} {key : String} {n : Node} :
    Written.Has (memberNodes ms) key n ↔ ∃ v, (key, v) ∈ ms ∧ n = v.node := by
  induction ms with
  | nil => simp [memberNodes, Written.Has]
  | cons m ms ih =>
    rw [memberNodes, Written.has_cons (StringLiteral.read_ofString m.1), ih]
    simp only [List.mem_cons, Prod.ext_iff]
    grind

/-- A printed object in which no key comes twice is one to its reader. -/
lemma isObject_toText {ms : List (String × Value)} (hw : wholeMembers ms = true)
    (hd : (ms.map Prod.fst).Nodup) :
    IsObject (Utf8.ofString (Value.object ms).toText) (memberNodes ms) where
  scan := scan_toText hw
  skim := skimMembers_nodes ms hw
  distinct := by rwa [keys_memberNodes]

/-! ### What a field reads -/

lemma map_eq_ok_iff {ε α β : Type} {x : Except ε α} {f : α → β} {b : β} :
    x.map f = .ok b ↔ ∃ a, x = .ok a ∧ b = f a := by
  rcases x with e | a <;> simp [Except.map, eq_comm]

lemma mapM_eq_ok_iff {ε α β : Type} {f : α → Except ε β} {as : List α} {bs : List β} :
    as.mapM f = .ok bs ↔ List.Forall₂ (fun a b => f a = .ok b) as bs := by
  induction as generalizing bs with
  | nil => simp [pure, Except.pure, eq_comm]
  | cons a as ih =>
    rw [List.mapM_cons, List.forall₂_cons_left_iff]
    simp only [bind_eq_ok_iff, ← ih, pure, Except.pure, Except.ok.injEq, exists_and_left,
      @eq_comm _ bs]

namespace Decoder

variable {α : Type} {depth : ℕ} {n : Node}

lemma mismatch_ne_ok {expected : String} {a : α} : mismatch expected n ≠ .ok a := by
  rw [mismatch]
  rcases n.describe with e | t <;> simp [lift, Except.mapError, bind, Except.bind, throw, throwThe,
    MonadExceptOf.throw]

lemma string_eq_ok_iff {t : String} :
    string depth n = .ok t ↔ ∃ s, n = .string s ∧ s.read = .ok t := by
  rcases n with _ | b | l | s | ⟨ns, stop⟩ | ⟨ms, stop⟩ | ⟨ms, i⟩ | p | p
  case string =>
    rcases hs : s.read with e | t' <;> simp [string, hs, lift, Except.mapError]
  all_goals simp [string, mismatch_ne_ok]

lemma nullable_eq_ok_iff {d : Decoder α} {x : Option α} :
    d.nullable depth n = .ok x ↔
      n = .null ∧ x = none ∨ n ≠ .null ∧ ∃ a, d depth n = .ok a ∧ x = some a := by
  rcases n with _ | b | l | s | ⟨ns, stop⟩ | ⟨ms, stop⟩ | ⟨ms, i⟩ | p | p
  case null => simp [nullable, eq_comm]
  all_goals
    simp only [nullable, map_eq_ok_iff, ne_eq, reduceCtorEq, false_and, false_or,
      not_false_eq_true, true_and]

/-- A list is read entry by entry. -/
lemma list_eq_ok_iff {d : Decoder α} {ns : List Node} {as : List α} :
    d.list (depth + 1) (.array ns .closed) = .ok as ↔
      List.Forall₂ (fun n a => d depth n = .ok a) ns as := by
  have hlist : d.list (depth + 1) (.array ns .closed) = ns.mapM (d depth) := by
    simp only [list, nested, endOf, ArrayEnd.problem]
    exact bind_pure _
  rw [hlist, mapM_eq_ok_iff]

lemma int64_eq_ok_iff {i : Int} :
    int64 depth n = .ok i ↔ ∃ l h, n = .number l ∧ l.read = .ok (.int i h) ∧
      i < 0x8000000000000000 := by
  rcases n with _ | b | l | s | ⟨ns, stop⟩ | ⟨ms, stop⟩ | ⟨ms, i⟩ | p | p
  case number =>
    rcases hl : l.read with e | j
    · simp [int64, intIn, hl, lift, Except.mapError, bind, Except.bind]
    rcases j with ⟨j, h⟩ | x
    · simp only [int64, intIn, hl, lift, Except.mapError, bind, Except.bind, Node.number.injEq,
        exists_and_left, exists_eq_left', Except.ok.injEq, Number.int.injEq]
      split_ifs with hj <;> simp <;> grind
    · simp [int64, intIn, hl, lift, Except.mapError, bind, Except.bind]
  all_goals simp [int64, intIn, mismatch_ne_ok]

end Decoder

namespace Field

variable {ρ α β : Type} {absence : Absence} {name : String} {d : Decoder β} {set : β → ρ → ρ}

@[simp] lemma name_make : (make absence name d set).name = name := rfl

lemma read_make_eq_ok {depth : ℕ} {n : Node} {change : ρ → ρ} :
    (make absence name d set).read depth n = .ok change ↔
      ∃ a, d depth n = .ok a ∧ change = set a := map_eq_ok_iff

/-- Whatever a field reads, it leaves a part of the record as it is. -/
def Leaves (get : ρ → α) (f : Field ρ) : Prop :=
  ∀ depth n change, f.read depth n = .ok change → ∀ x, get (change x) = get x

lemma leaves_make {get : ρ → α} (h : ∀ a x, get (set a x) = get x) :
    (make absence name d set).Leaves get := by
  intro depth n change hread x
  obtain ⟨a, -, rfl⟩ := read_make_eq_ok.mp hread
  exact h a x

end Field

namespace Record

open Written

variable {ρ α : Type} {r : Record ρ} {depth : ℕ} {p q : Progress ρ} {k : StringLiteral}
  {key name : String} {n : Node} {ms : Written}

/-! ### One member -/

lemma find?_field (hr : (r.fields.map (·.name)).Nodup) {f : Field ρ} (hf : f ∈ r.fields) :
    r.fields.find? (·.name == f.name) = some f := by
  rcases hg : r.fields.find? (·.name == f.name) with _ | g
  · simpa using List.find?_eq_none.mp hg f hf
  · have hname : g.name = f.name := by simpa using List.find?_some hg
    rw [hg, List.inj_on_of_nodup_map hr (List.mem_of_find?_eq_some hg) hf hname]

/-- A member of a declared field is read by it, if it is the first of its name. -/
lemma readMember_of_mem (hr : (r.fields.map (·.name)).Nodup) {f : Field ρ} (hf : f ∈ r.fields) :
    r.readMember depth p f.name n = .ok q ↔
      f.name ∉ p.seen ∧ ∃ change, f.read depth n = .ok change ∧
        q = ⟨change p.value, f.name :: p.seen⟩ := by
  simp only [readMember, find?_field hr hf, refuseTwice]
  by_cases hs : f.name ∈ p.seen
  · simp [hs, bind_eq_ok_iff]
  · simp [hs, bind_eq_ok_iff, pure, Except.pure, @eq_comm _ q]

/-- A member of no field is passed over. -/
lemma readMember_of_forall_ne (h : ∀ f ∈ r.fields, f.name ≠ key) (hs : n.skim = .ok ()) :
    r.readMember depth p key n = .ok p := by
  have hnone : r.fields.find? (·.name == key) = none := by
    simpa [List.find?_eq_none] using h
  simp only [readMember, hnone, hs]
  rfl

/-- **What reading one more member can be**: its key is readable, and either it is the first of its
name and its field reads it, or no field has its name. -/
lemma readMembers_cons_iff (hr : (r.fields.map (·.name)).Nodup) (hs : n.skim = .ok ()) :
    r.readMembers depth p ((k, n) :: ms) = .ok q ↔
      (∃ f ∈ r.fields, k.read = .ok f.name ∧ f.name ∉ p.seen ∧ ∃ change,
        f.read depth n = .ok change ∧
        r.readMembers depth ⟨change p.value, f.name :: p.seen⟩ ms = .ok q) ∨
      ∃ key, k.read = .ok key ∧ (∀ f ∈ r.fields, f.name ≠ key) ∧
        r.readMembers depth p ms = .ok q := by
  rcases hk : k.read with e | key
  · simp [readMembers, lift, hk, Except.mapError, bind_eq_ok_iff]
  have hcons : r.readMembers depth p ((k, n) :: ms) = .ok q ↔
      ∃ p', r.readMember depth p key n = .ok p' ∧ r.readMembers depth p' ms = .ok q := by
    simp only [readMembers, lift, hk, Except.mapError, bind_eq_ok_iff, Except.ok.injEq,
      exists_eq_left']
  rw [hcons]
  by_cases hf : ∃ f ∈ r.fields, f.name = key
  · obtain ⟨f, hf, rfl⟩ := hf
    constructor
    · rintro ⟨p', hp, hq⟩
      obtain ⟨hnew, change, hchange, rfl⟩ := (readMember_of_mem hr hf).mp hp
      exact .inl ⟨f, hf, rfl, hnew, change, hchange, hq⟩
    · rintro (⟨g, hg, hname, hnew, change, hchange, hq⟩ | ⟨key, hkey, hne, -⟩)
      · obtain rfl := List.inj_on_of_nodup_map hr hf hg (Except.ok.inj hname)
        exact ⟨_, (readMember_of_mem hr hf).mpr ⟨hnew, change, hchange, rfl⟩, hq⟩
      · exact absurd (Except.ok.inj hkey) (hne f hf)
  · have hne : ∀ f ∈ r.fields, f.name ≠ key := by simpa using hf
    rw [readMember_of_forall_ne hne hs]
    constructor
    · rintro ⟨p', hp, hq⟩
      obtain rfl := Except.ok.inj hp
      exact .inr ⟨key, rfl, hne, hq⟩
    · rintro (⟨f, hf, hname, -⟩ | ⟨-, -, -, hq⟩)
      · exact absurd (Except.ok.inj hname).symm (hne f hf)
      · exact ⟨p, rfl, hq⟩

/-! ### All members -/

/-- The keys that are declared, in order. -/
def taken (r : Record ρ) (ms : Written) : List String :=
  ms.keys.filter (· ∈ r.fields.map (·.name))

lemma taken_of_mem {f : Field ρ} (hf : f ∈ r.fields) (hk : k.read = .ok f.name) :
    r.taken ((k, n) :: ms) = f.name :: r.taken ms := by
  rw [taken, keys_cons hk, List.filter_cons_of_pos (by simpa using ⟨f, hf, rfl⟩), taken]

lemma taken_of_forall_ne (h : ∀ f ∈ r.fields, f.name ≠ key) (hk : k.read = .ok key) :
    r.taken ((k, n) :: ms) = r.taken ms := by
  rw [taken, keys_cons hk, List.filter_cons_of_neg (by simpa using h), taken]

lemma nodup_taken_iff : (r.taken ms).Nodup ↔ ∀ f ∈ r.fields, ms.keys.count f.name ≤ 1 := by
  have hcount {f : Field ρ} (hf : f ∈ r.fields) :
      (r.taken ms).count f.name = ms.keys.count f.name :=
    List.count_filter (decide_eq_true (List.mem_map_of_mem hf))
  rw [List.nodup_iff_count_le_one]
  constructor
  · intro h f hf
    rw [← hcount hf]
    exact h f.name
  · intro h key
    by_cases hkey : key ∈ r.taken ms
    · obtain ⟨f, hf, rfl⟩ := List.mem_map.mp (of_decide_eq_true (List.mem_filter.mp hkey).2)
      rw [hcount hf]
      exact h f hf
    · rw [List.count_eq_zero.mpr hkey]
      omega

/-- What a record asks of the members of an object: every key can be read, no declared one comes
twice, and what stands under a declared one is read by its field. -/
structure Fits (r : Record ρ) (depth : ℕ) (ms : Written) : Prop where
  keys : ∀ m ∈ ms, ∃ key, m.1.read = .ok key
  once : (r.taken ms).Nodup
  read : ∀ f ∈ r.fields, ∀ n, ms.Has f.name n → ∃ change, f.read depth n = .ok change

lemma fits_nil : r.Fits depth [] := ⟨by simp, by simp [taken, Written.keys], by simp [Has]⟩

/-- A member whose key is the name of a field fits if it is the first of its name and its value
does. -/
lemma fits_of_mem (hr : (r.fields.map (·.name)).Nodup) {f : Field ρ} (hf : f ∈ r.fields)
    (hk : k.read = .ok f.name) :
    r.Fits depth ((k, n) :: ms) ↔
      f.name ∉ r.taken ms ∧ (∃ change, f.read depth n = .ok change) ∧ r.Fits depth ms := by
  constructor
  · rintro ⟨hkeys, honce, hread⟩
    rw [taken_of_mem hf hk, List.nodup_cons] at honce
    refine ⟨honce.1, hread f hf n ((has_cons hk).mpr (.inl ⟨rfl, rfl⟩)), ?_, honce.2, ?_⟩
    · exact fun m hm => hkeys m (List.mem_cons_of_mem _ hm)
    · exact fun g hg m hm => hread g hg m ((has_cons hk).mpr (.inr hm))
  · rintro ⟨hnew, hone, hkeys, honce, hread⟩
    refine ⟨?_, ?_, fun g hg m hm => ?_⟩
    · rintro m (_ | ⟨_, hm⟩)
      exacts [⟨_, hk⟩, hkeys m hm]
    · rw [taken_of_mem hf hk, List.nodup_cons]
      exact ⟨hnew, honce⟩
    · rcases (has_cons hk).mp hm with ⟨heq, rfl⟩ | hm
      · rwa [List.inj_on_of_nodup_map hr hg hf heq]
      · exact hread g hg m hm

/-- A member whose key is the name of no field fits, whatever its value is. -/
lemma fits_of_forall_ne (h : ∀ f ∈ r.fields, f.name ≠ key) (hk : k.read = .ok key) :
    r.Fits depth ((k, n) :: ms) ↔ r.Fits depth ms := by
  constructor
  · rintro ⟨hkeys, honce, hread⟩
    rw [taken_of_forall_ne h hk] at honce
    exact ⟨fun m hm => hkeys m (List.mem_cons_of_mem _ hm), honce,
      fun g hg m hm => hread g hg m ((has_cons hk).mpr (.inr hm))⟩
  · rintro ⟨hkeys, honce, hread⟩
    refine ⟨?_, by rwa [taken_of_forall_ne h hk], fun g hg m hm => ?_⟩
    · rintro m (_ | ⟨_, hm⟩)
      exacts [⟨_, hk⟩, hkeys m hm]
    · rcases (has_cons hk).mp hm with ⟨heq, -⟩ | hm
      · exact absurd heq (h g hg)
      · exact hread g hg m hm

/-- Members are read just if they fit and their fields were not seen before. -/
lemma exists_readMembers_iff (hr : (r.fields.map (·.name)).Nodup) (hs : skimMembers ms = .ok ()) :
    (∃ q, r.readMembers depth p ms = .ok q) ↔
      r.Fits depth ms ∧ ∀ key ∈ r.taken ms, key ∉ p.seen := by
  induction ms generalizing p with
  | nil => simp [readMembers, fits_nil, taken, Written.keys]
  | cons m ms ih =>
    obtain ⟨k, n⟩ := m
    obtain ⟨-, hn, hrest⟩ := skimMembers_cons_iff.mp hs
    simp only [readMembers_cons_iff hr hn]
    constructor
    · rintro ⟨q, ⟨f, hf, hk, hnew, change, hchange, hq⟩ | ⟨key, hk, hne, hq⟩⟩
      · obtain ⟨hfits, hfresh⟩ := (ih hrest).mp ⟨q, hq⟩
        rw [fits_of_mem hr hf hk, taken_of_mem hf hk]
        refine ⟨⟨fun hm => hfresh _ hm List.mem_cons_self, ⟨change, hchange⟩, hfits⟩, ?_⟩
        rintro key (_ | ⟨_, hm⟩)
        exacts [hnew, fun hp => hfresh key hm (List.mem_cons_of_mem _ hp)]
      · rw [fits_of_forall_ne hne hk, taken_of_forall_ne hne hk]
        exact (ih hrest).mp ⟨q, hq⟩
    · rintro ⟨hfits, hfresh⟩
      obtain ⟨key, hk⟩ := hfits.keys _ List.mem_cons_self
      by_cases hf : ∃ f ∈ r.fields, f.name = key
      · obtain ⟨f, hf, rfl⟩ := hf
        rw [taken_of_mem hf hk] at hfresh
        obtain ⟨hnew, ⟨change, hchange⟩, hfits⟩ := (fits_of_mem hr hf hk).mp hfits
        have hlater : ∀ key ∈ r.taken ms, key ∉ f.name :: p.seen := by
          intro key hm hs
          rcases List.mem_cons.mp hs with rfl | hs
          exacts [hnew hm, hfresh key (List.mem_cons_of_mem _ hm) hs]
        obtain ⟨q, hq⟩ := (ih (p := ⟨change p.value, f.name :: p.seen⟩) hrest).mpr ⟨hfits, hlater⟩
        exact ⟨q, .inl ⟨f, hf, hk, hfresh f.name List.mem_cons_self, change, hchange, hq⟩⟩
      · have hne : ∀ f ∈ r.fields, f.name ≠ key := by simpa using hf
        rw [fits_of_forall_ne hne hk] at hfits
        rw [taken_of_forall_ne hne hk] at hfresh
        obtain ⟨q, hq⟩ := (ih hrest).mpr ⟨hfits, hfresh⟩
        exact ⟨q, .inr ⟨key, hk, hne, hq⟩⟩

/-- The fields that were seen in the end are those of the members. -/
lemma mem_seen_of_readMembers (hr : (r.fields.map (·.name)).Nodup) (hs : skimMembers ms = .ok ())
    (h : r.readMembers depth p ms = .ok q) : name ∈ q.seen ↔ name ∈ r.taken ms ∨ name ∈ p.seen := by
  induction ms generalizing p with
  | nil =>
    cases h
    simp [taken, Written.keys]
  | cons m ms ih =>
    obtain ⟨k, n⟩ := m
    obtain ⟨-, hn, hrest⟩ := skimMembers_cons_iff.mp hs
    rcases (readMembers_cons_iff hr hn).mp h with
      ⟨f, hf, hk, -, change, -, hq⟩ | ⟨key, hk, hne, hq⟩
    · rw [ih hrest hq, taken_of_mem hf hk, List.mem_cons, List.mem_cons]
      tauto
    · rw [ih hrest hq, taken_of_forall_ne hne hk]

/-- A part of a record that the field of some name sets, by a reader of its own, and no other
field. -/
structure Slot (r : Record ρ) (name : String) (d : Decoder α) (get : ρ → α) : Prop where
  declared : ∃ f ∈ r.fields, f.name = name
  sets : ∀ f ∈ r.fields, f.name = name → ∀ depth n change, f.read depth n = .ok change →
    ∃ a, d depth n = .ok a ∧ ∀ x, get (change x) = a
  keeps : ∀ f ∈ r.fields, f.name ≠ name → f.Leaves get

lemma slot_of_mem (hr : (r.fields.map (·.name)).Nodup) {absence : Absence} {d : Decoder α}
    {set : α → ρ → ρ} {get : ρ → α} (hf : .make absence name d set ∈ r.fields)
    (hget : ∀ a x, get (set a x) = a) (hkeeps : ∀ f ∈ r.fields, f.name ≠ name → f.Leaves get) :
    r.Slot name d get where
  declared := ⟨_, hf, rfl⟩
  sets := by
    intro f hf' hname depth n change h
    rw [List.inj_on_of_nodup_map hr hf' hf hname] at h
    obtain ⟨a, ha, rfl⟩ := Field.read_make_eq_ok.mp h
    exact ⟨a, ha, hget a⟩
  keeps := hkeeps

/-- What is read at a slot is what stands under its name; without that it stays as it was. -/
lemma readMembers_slot (hr : (r.fields.map (·.name)).Nodup) (hs : skimMembers ms = .ok ())
    {d : Decoder α} {get : ρ → α} (hslot : r.Slot name d get)
    (h : r.readMembers depth p ms = .ok q) :
    (∀ n, ms.Has name n → d depth n = .ok (get q.value)) ∧
      (name ∉ Written.keys ms → get q.value = get p.value) := by
  induction ms generalizing p with
  | nil =>
    cases h
    simp [Has]
  | cons m ms ih =>
    obtain ⟨k, n⟩ := m
    obtain ⟨-, hn, hrest⟩ := skimMembers_cons_iff.mp hs
    rcases (readMembers_cons_iff hr hn).mp h with
      ⟨f, hf, hk, -, change, hchange, hq⟩ | ⟨key, hk, hne, hq⟩
    · obtain ⟨hhas, hkept⟩ := ih hrest hq
      refine ⟨fun m hm => ?_, fun hname => ?_⟩
      · rcases (has_cons hk).mp hm with ⟨rfl, rfl⟩ | hm
        · -- no other member has this name, so what is set here stays
          have hgone : f.name ∉ Written.keys ms := fun hname =>
            ((exists_readMembers_iff hr hrest).mp ⟨q, hq⟩).2 f.name
              (List.mem_filter.mpr ⟨hname, by simpa using ⟨f, hf, rfl⟩⟩) List.mem_cons_self
          obtain ⟨a, ha, hget⟩ := hslot.sets f hf rfl depth _ change hchange
          rw [ha, hkept hgone, hget]
        · exact hhas m hm
      · rw [keys_cons hk, List.mem_cons, not_or] at hname
        rw [hkept hname.2]
        exact hslot.keeps f hf (Ne.symm hname.1) depth n change hchange p.value
    · obtain ⟨hhas, hkept⟩ := ih hrest hq
      rw [keys_cons hk]
      refine ⟨fun m hm => ?_, fun hname => hkept fun hm => hname (List.mem_cons_of_mem _ hm)⟩
      rcases (has_cons hk).mp hm with ⟨rfl, -⟩ | hm
      · obtain ⟨f, hf, heq⟩ := hslot.declared
        exact absurd heq (hne f hf)
      · exact hhas m hm

/-! ### The whole record -/

lemma decoder_eq_ok_iff {x : ρ} : r.decoder (depth + 1) (.object ms .closed) = .ok x ↔
    ∃ q, r.readMembers depth ⟨r.empty, []⟩ ms = .ok q ∧ r.complete q = .ok x := by
  simp only [decoder, Decoder.nested, Decoder.endOfMembers, bind_eq_ok_iff, Except.ok.injEq,
    exists_eq_left']

lemma complete_eq_ok {x : ρ} :
    r.complete p = .ok x ↔
      (∀ f ∈ r.fields, f.absence = .refused → f.name ∈ p.seen) ∧ x = p.value := by
  unfold complete
  split
  · rename_i f hf
    have hbad : f.absence = .refused ∧ f.name ∉ p.seen := by simpa using List.find?_some hf
    have hmem := List.mem_of_find?_eq_some hf
    exact ⟨by simp, fun h => absurd (h.1 f hmem hbad.1) hbad.2⟩
  · rename_i hf
    have hall : ∀ f ∈ r.fields, f.absence = .refused → f.name ∈ p.seen := by
      simpa [List.find?_eq_none] using hf
    exact ⟨fun h => ⟨hall, (Except.ok.inj h).symm⟩, fun h => by rw [h.2]⟩

/-- **What is read as a record**: an object that fits and holds the fields that have to be there. -/
theorem exists_decoder_iff (hr : (r.fields.map (·.name)).Nodup) (hs : skimMembers ms = .ok ()) :
    (∃ x, r.decoder (depth + 1) (.object ms .closed) = .ok x) ↔
      r.Fits depth ms ∧ ∀ f ∈ r.fields, f.absence = .refused → f.name ∈ ms.keys := by
  have hrun : (∃ q, r.readMembers depth ⟨r.empty, []⟩ ms = .ok q) ↔ _ :=
    exists_readMembers_iff hr hs
  have hseen {q : Progress ρ} (hq : r.readMembers depth ⟨r.empty, []⟩ ms = .ok q) {f : Field ρ}
      (hf : f ∈ r.fields) : f.name ∈ q.seen ↔ f.name ∈ Written.keys ms := by
    rw [mem_seen_of_readMembers hr hs hq, taken, List.mem_filter]
    simpa using fun _ => ⟨f, hf, rfl⟩
  simp only [decoder_eq_ok_iff]
  constructor
  · rintro ⟨x, q, hq, hc⟩
    exact ⟨(hrun.mp ⟨q, hq⟩).1, fun f hf ha =>
      (hseen hq hf).mp ((complete_eq_ok.mp hc).1 f hf ha)⟩
  · rintro ⟨hfits, hthere⟩
    obtain ⟨q, hq⟩ := hrun.mpr ⟨hfits, by simp⟩
    exact ⟨q.value, q, hq,
      complete_eq_ok.mpr ⟨fun f hf ha => (hseen hq hf).mpr (hthere f hf ha), rfl⟩⟩

/-- **What a record that was read holds** at each slot: what stands under its name, or what it held
before if there is nothing. -/
theorem slot_of_decoder (hr : (r.fields.map (·.name)).Nodup) (hs : skimMembers ms = .ok ())
    {d : Decoder α} {get : ρ → α} (hslot : r.Slot name d get) {x : ρ}
    (h : r.decoder (depth + 1) (.object ms .closed) = .ok x) :
    (∀ n, ms.Has name n → d depth n = .ok (get x)) ∧ (name ∉ ms.keys → get x = get r.empty) := by
  obtain ⟨q, hq, hc⟩ := decoder_eq_ok_iff.mp h
  rw [(complete_eq_ok.mp hc).2]
  exact readMembers_slot hr hs hslot hq

/-- A text that was read at a slot stands under its name, if anything does. -/
lemma says_of_mem_keys (hr : (r.fields.map (·.name)).Nodup) (hs : skimMembers ms = .ok ())
    {get : ρ → String} (hslot : r.Slot name Decoder.string get) {x : ρ}
    (h : r.decoder (depth + 1) (.object ms .closed) = .ok x) (hname : name ∈ ms.keys) :
    ms.Says name (get x) := by
  obtain ⟨n, hn⟩ := Written.exists_has hname
  obtain ⟨s, rfl, hread⟩ := Decoder.string_eq_ok_iff.mp ((slot_of_decoder hr hs hslot h).1 n hn)
  exact ⟨s, hn, hread⟩

/-- **What a body is read as.** If everything that is read holds of a body, all that it asks is met
where it holds, and it holds of one record at most, then it is what the body is read as. -/
theorem decode_eq_ok_iff {body : List UInt8} (hbody : IsObject body ms)
    (hr : (r.fields.map (·.name)).Nodup) {Shows : ρ → Prop}
    (hsound : ∀ x, r.decoder (126 + 1) (.object ms .closed) = .ok x → Shows x)
    (hfits : ∀ x, Shows x →
      r.Fits 126 ms ∧ ∀ f ∈ r.fields, f.absence = .refused → f.name ∈ ms.keys)
    (hunique : ∀ x y, Shows x → Shows y → x = y) {x : ρ} :
    r.decoder.decode body = .ok x ↔ Shows x := by
  have hdecode : r.decoder.decode body = r.decoder (126 + 1) (.object ms .closed) :=
    hbody.decode_eq r.decoder
  rw [hdecode]
  constructor
  · exact hsound x
  · intro hx
    obtain ⟨y, hy⟩ := (exists_decoder_iff hr hbody.skim).mpr (hfits x hx)
    rw [hy, hunique y x (hsound y hy) hx]

end Record

end TeamSync.Json
