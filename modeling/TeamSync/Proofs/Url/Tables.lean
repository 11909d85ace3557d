import Mathlib.Data.Nat.Notation
import Mathlib.Tactic.Lemma
import TeamSync.Url.Domain.Label

/-!
What all rows of the tables of code points have in common. Only the capitals of ASCII stand in them,
all else lies beyond ASCII, and no row yields a capital.
-/

namespace TeamSync.Text

/-! ### Tests of all rows -/

/-- Whether the rows on a line pass a test. -/
def linePasses (test : Row → Bool) (cs : List Char) : Bool :=
  (((splitAt (· = ' ') cs).filter (· ≠ [])).map Row.read).all test

/-- Lines whose rows pass a test. -/
inductive LinesPass (test : Row → Bool) : List String → Prop where
  | nil : LinesPass test []
  | cons {cs : List Char} {ls : List String} (h : linePasses test cs = true)
      (hs : LinesPass test ls) : LinesPass test (String.ofList cs :: ls)

namespace Table

lemma all_ofLines {test : Row → Bool} {ls : List String} (h : LinesPass test ls) :
    (ofLines ls).all test = true := by
  induction h with
  | nil => rfl
  | cons h _ ih =>
    rw [ofLines, List.flatMap_cons, List.all_append, Bool.and_eq_true, String.toList_ofList]
    exact ⟨h, ih⟩

variable {t : Table} {n : ℕ} {ms : List ℕ}

lemma exists_row_of_get? (h : t.get? n = some ms) : ∃ r ∈ t, r.get? n = some ms :=
  List.exists_of_findSome?_eq_some h

/-- The values of a code point lie in a row at some distance from its first ones. -/
lemma exists_value_of_get? {r : Row} (h : r.get? n = some ms) : r.first ≤ n ∧ n ≤ r.last ∧
    ∀ m ∈ ms, ∃ v ∈ r.values, v ≤ m ∧ m ≤ v + (r.last - r.first) := by
  rw [Row.get?] at h
  split at h
  case isFalse => cases h
  next hrange =>
  refine ⟨hrange.1, hrange.2, ?_⟩
  have hgrow : ∀ m ∈ r.values.map (· + (n - r.first)),
      ∃ v ∈ r.values, v ≤ m ∧ m ≤ v + (r.last - r.first) := by
    intro m hm
    obtain ⟨v, hv, rfl⟩ := List.mem_map.mp hm
    exact ⟨v, hv, by omega, by omega⟩
  cases hrule : r.rule with
  | fixed =>
    rw [hrule] at h
    cases h
    exact fun m hm => ⟨m, hm, by omega, by omega⟩
  | growing =>
    rw [hrule] at h
    cases h
    exact hgrow
  | alternating =>
    simp only [hrule, Option.ite_none_right_eq_some, Option.some.injEq] at h
    obtain ⟨-, rfl⟩ := h
    exact hgrow

/-- A table of code points beyond ASCII has no ASCII character. -/
lemma get?_eq_none (h : t.all (0x80 ≤ ·.first) = true) (hn : n < 0x80) : t.get? n = none := by
  refine Option.eq_none_iff_forall_ne_some.mpr fun ms hms => ?_
  obtain ⟨r, hr, hget⟩ := exists_row_of_get? hms
  have hfirst := of_decide_eq_true (List.all_eq_true.mp h r hr)
  have := (exists_value_of_get? hget).1
  omega

end Table

end TeamSync.Text

namespace TeamSync.Url.Domain

open Text

/-- The capitals of ASCII. -/
def isCapital (n : ℕ) : Bool := 0x41 ≤ n && n ≤ 0x5A

/-- Whether a row lies beyond ASCII, or is the one of the capitals, and yields no capital. -/
def mapsPlainly (r : Row) : Bool :=
  (0x80 ≤ r.first || (r.first = 0x41 && r.last = 0x5A)) &&
    r.values.all fun v => v + (r.last - r.first) < 0x41 || 0x5A < v

/-- Whether a row composes a character beyond ASCII from something and one beyond ASCII. -/
def composesPlainly (r : Row) : Bool :=
  0x80 ≤ r.first && r.rule = .fixed && match r.values with
    | [a, b] => !isCapital a && 0x80 ≤ b
    | _ => false

lemma mapsPlainly_replaced : replaced.all mapsPlainly = true := by
  unfold replaced
  apply Table.all_ofLines
  repeat' apply LinesPass.cons
  all_goals first | exact .nil | decide +kernel

lemma le_first_refused : refused.all (0x80 ≤ ·.first) = true := by
  unfold refused
  apply Table.all_ofLines
  repeat' apply LinesPass.cons
  all_goals first | exact .nil | decide +kernel

lemma composesPlainly_pairs : Composition.pairs.all composesPlainly = true := by
  unfold Composition.pairs
  apply Table.all_ofLines
  repeat' apply LinesPass.cons
  all_goals first | exact .nil | decide +kernel

lemma le_first_classes : Composition.classes.all (0x80 ≤ ·.first) = true := by
  unfold Composition.classes
  apply Table.all_ofLines
  repeat' apply LinesPass.cons
  all_goals first | exact .nil | decide +kernel

end TeamSync.Url.Domain
