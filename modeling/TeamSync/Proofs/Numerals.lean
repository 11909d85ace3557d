import Mathlib.Data.List.Induction
import Mathlib.Data.List.TakeWhile
import Mathlib.Data.Nat.Notation
import Mathlib.Tactic.Lemma
import TeamSync.Text.Blank
import TeamSync.Text.Numeral

/-!
Which texts are numerals, and of what. A numeral is read as a number just if it is the digits of the
number with zeros in front of them and a sign in front of these, and blanks around it are trimmed.
-/

namespace TeamSync

namespace Numeral

/-- The ways to write a number in digits: zeros, and then its digits. -/
def Writes (n : ℕ) (cs : List Char) : Prop := ∃ k, cs = List.replicate k '0' ++ ofNat n

/-- The ways to write a number that has no sign, or a plus sign. -/
def Unsigned (n : ℕ) (cs : List Char) : Prop := ∃ ds, (cs = ds ∨ cs = '+' :: ds) ∧ Writes n ds

/-- The ways to write an integer. -/
def Signed (i : Int) (cs : List Char) : Prop :=
  ∃ n : ℕ, (i = (n : Int) ∧ Unsigned n cs) ∨ (i = -(n : Int) ∧ ∃ ds, cs = '-' :: ds ∧ Writes n ds)

variable {n : ℕ} {cs : List Char} {c : Char}

/-! ### Digits -/

lemma digits?_ofNat (n : ℕ) : digits? (ofNat n) = some n := by
  have hne : ofNat n ≠ [] := Nat.toDigits_ne_nil
  have hall : (ofNat n).all Char.isDigit = true :=
    List.all_eq_true.mpr fun c hc => Nat.isDigit_of_mem_toDigits (by decide) (by decide) hc
  have hvalue : (ofNat n).foldl addDigit 0 = n := by
    have h := Nat.ofDigitChars_ten_toDigits (n := n)
    rwa [Nat.ofDigitChars_eq_foldl] at h
  rw [digits?, if_pos ⟨hne, hall⟩, hvalue]

lemma digits?_eq_some (h : digits? cs = some n) :
    cs ≠ [] ∧ (∀ c ∈ cs, c.isDigit = true) ∧ cs.foldl addDigit 0 = n := by
  unfold digits? at h
  split at h
  · next hd => exact ⟨hd.1, List.all_eq_true.mp hd.2, Option.some.inj h⟩
  · cases h

/-- A digit is the text of its value. -/
lemma exists_digit (h : c.isDigit = true) : ∃ d < 10, c.toNat - '0'.toNat = d ∧ ofNat d = [c] := by
  simp only [Char.isDigit, Bool.and_eq_true, decide_eq_true_eq] at h
  have hlo : 48 ≤ c.toNat := h.1
  have hhi : c.toNat ≤ 57 := h.2
  have hzero : '0'.toNat = 48 := rfl
  have hlt : c.toNat - 48 < 10 := by omega
  refine ⟨c.toNat - 48, hlt, rfl, ?_⟩
  have hc : Nat.digitChar (c.toNat - 48) = c := by
    rw [← Char.toNat_inj, Nat.toNat_digitChar_of_lt_ten hlt]
    omega
  rw [ofNat, Nat.toDigits_of_lt_base hlt, hc]

/-- A digit more, behind a number that is written. -/
lemma Writes.concat (h : Writes n cs) (hc : c.isDigit = true) :
    Writes (addDigit n c) (cs ++ [c]) := by
  obtain ⟨k, rfl⟩ := h
  obtain ⟨d, hd, hval, htext⟩ := exists_digit hc
  rw [addDigit, hval]
  rcases Nat.eq_zero_or_pos n with rfl | hpos
  · -- a zero in front of a single digit is one of the zeros
    refine ⟨k + 1, ?_⟩
    rw [Nat.mul_zero, Nat.zero_add, htext, List.replicate_succ']
    rfl
  · refine ⟨k, ?_⟩
    have hdiv : (10 * n + d) / 10 = n := by omega
    have hmod : (10 * n + d) % 10 = d := by omega
    have hmore : ofNat (10 * n + d) = ofNat n ++ [c] := by
      rw [← htext, ofNat, Nat.toDigits_of_base_le (by decide) (by omega), hdiv, hmod, ofNat, ofNat,
        Nat.toDigits_of_lt_base hd]
    rw [List.append_assoc, hmore]

lemma writes_of_digits (hne : cs ≠ []) (h : ∀ c ∈ cs, c.isDigit = true) :
    Writes (cs.foldl addDigit 0) cs := by
  induction cs using List.reverseRecOn with
  | nil => exact absurd rfl hne
  | append_singleton ds c ih =>
    have hc : c.isDigit = true := h c (by simp)
    rw [List.foldl_append, List.foldl_cons, List.foldl_nil]
    rcases List.eq_nil_or_concat ds with rfl | ⟨es, e, hes⟩
    · obtain ⟨d, -, hval, htext⟩ := exists_digit hc
      have hdigit : addDigit 0 c = d := by rw [addDigit, hval]; omega
      exact ⟨0, by rw [List.foldl_nil, hdigit, htext]; rfl⟩
    · exact (ih (by simp [hes]) fun d hd => h d (by simp [hd])).concat hc

/-- **A text of digits is zeros and then the digits of its value.** -/
theorem digits?_eq_some_iff : digits? cs = some n ↔ Writes n cs := by
  constructor
  · intro h
    obtain ⟨hne, hall, rfl⟩ := digits?_eq_some h
    exact writes_of_digits hne hall
  · rintro ⟨k, rfl⟩
    obtain ⟨hne, hall, hvalue⟩ := digits?_eq_some (digits?_ofNat n)
    have hzeros : (List.replicate k '0').foldl addDigit 0 = 0 := by
      induction k with
      | zero => rfl
      | succ k ih => rw [List.replicate_succ, List.foldl_cons]; exact ih
    have hdigits : (List.replicate k '0' ++ ofNat n).all Char.isDigit = true := by
      rw [List.all_append, List.all_eq_true.mpr hall, Bool.and_true, List.all_eq_true]
      intro c hc
      rw [List.eq_of_mem_replicate hc]
      rfl
    rw [digits?, if_pos ⟨by simp [hne], hdigits⟩, List.foldl_append, hzeros, hvalue]

lemma Writes.isDigit (h : Writes n cs) : ∀ c ∈ cs, c.isDigit = true :=
  (digits?_eq_some (digits?_eq_some_iff.mpr h)).2.1

/-! ### Signs -/

lemma dropPlus_cases (cs : List Char) : (∃ ds, cs = '+' :: ds ∧ dropPlus cs = ds) ∨
    ((∀ ds, cs ≠ '+' :: ds) ∧ dropPlus cs = cs) := by
  unfold dropPlus
  split
  · exact .inl ⟨_, rfl, rfl⟩
  · next h => exact .inr ⟨h, rfl⟩

lemma digits?_dropPlus_iff : digits? (dropPlus cs) = some n ↔ Unsigned n cs := by
  rw [digits?_eq_some_iff]
  rcases dropPlus_cases cs with ⟨ds, rfl, hd⟩ | ⟨hno, hd⟩
  · rw [hd]
    refine ⟨fun h => ⟨ds, .inr rfl, h⟩, ?_⟩
    rintro ⟨es, rfl | hes, h⟩
    · exact absurd (h.isDigit '+' List.mem_cons_self) (by decide)
    · obtain rfl : ds = es := List.tail_eq_of_cons_eq hes
      exact h
  · rw [hd]
    refine ⟨fun h => ⟨cs, .inl rfl, h⟩, ?_⟩
    rintro ⟨es, rfl | rfl, h⟩
    · exact h
    · exact absurd rfl (hno es)

lemma below?_eq_some_iff {bound : ℕ} : below? bound cs = some n ↔ Unsigned n cs ∧ n < bound := by
  rw [← digits?_dropPlus_iff, below?]
  rcases digits? (dropPlus cs) with _ | m
  · simp
  · simp only [Option.ite_none_right_eq_some, Option.some.injEq]
    grind

/-- **An unsigned integer of 64 bits is read just from its numerals.** -/
theorem uint64?_eq_some_iff {s : String} {n : UInt64} :
    uint64? s = some n ↔ Unsigned n.toNat s.toList := by
  rw [uint64?, Option.map_eq_some_iff]
  constructor
  · rintro ⟨m, hm, rfl⟩
    obtain ⟨hu, hlt⟩ := below?_eq_some_iff.mp hm
    rwa [Nat.toUInt64, UInt64.toNat_ofNat_of_lt' hlt]
  · intro h
    exact ⟨n.toNat, below?_eq_some_iff.mpr ⟨h, n.toNat_lt⟩, UInt64.ofNat_toNat⟩

/-- **A signed integer of 64 bits is read just from its numerals.** -/
theorem int64?_eq_some_iff {s : String} {i : Int} : int64? s = some i ↔
    Signed i s.toList ∧ -0x8000000000000000 ≤ i ∧ i < 0x8000000000000000 := by
  unfold int64?
  split
  · next ds hs =>
    have hminus (n : ℕ) : ¬Unsigned n s.toList := by
      rw [hs]
      rintro ⟨es, rfl | hes, h⟩
      · exact absurd (h.isDigit '-' List.mem_cons_self) (by decide)
      · cases hes
    rw [Option.bind_eq_some_iff]
    constructor
    · rintro ⟨n, hn, h⟩
      split_ifs at h with hle
      obtain rfl : -(n : Int) = i := Option.some.inj h
      exact ⟨⟨n, .inr ⟨rfl, ds, hs, digits?_eq_some_iff.mp hn⟩⟩, by omega, by omega⟩
    · rintro ⟨⟨n, ⟨-, hu⟩ | ⟨rfl, es, hes, hw⟩⟩, hlo, -⟩
      · exact absurd hu (hminus n)
      · obtain rfl : ds = es := List.tail_eq_of_cons_eq (hs.symm.trans hes)
        exact ⟨n, digits?_eq_some_iff.mpr hw, if_pos (by omega)⟩
  · next hno =>
    rw [Option.map_eq_some_iff]
    constructor
    · rintro ⟨n, hn, rfl⟩
      obtain ⟨hu, hlt⟩ := below?_eq_some_iff.mp hn
      have hnat : Int.ofNat n = (n : Int) := rfl
      exact ⟨⟨n, .inl ⟨rfl, hu⟩⟩, by omega, by omega⟩
    · rintro ⟨⟨n, ⟨rfl, hu⟩ | ⟨rfl, es, hes, -⟩⟩, -, hhi⟩
      · exact ⟨n, below?_eq_some_iff.mpr ⟨hu, by omega⟩, rfl⟩
      · exact absurd hes (hno es)

end Numeral

/-! ### Blanks around a text -/

namespace Text

lemma trimChars_split (cs : List Char) : ∃ before after, cs = before ++ trimChars cs ++ after ∧
    ∀ c ∈ before ++ after, isBlank c = true := by
  have hfront := List.takeWhile_append_dropWhile (p := isBlank) (l := cs)
  have hback := List.takeWhile_append_dropWhile (p := isBlank) (l := (cs.dropWhile isBlank).reverse)
  refine ⟨cs.takeWhile isBlank, ((cs.dropWhile isBlank).reverse.takeWhile isBlank).reverse, ?_, ?_⟩
  · rw [trimChars, dropEndWhile, List.append_assoc, ← List.reverse_append, hback,
      List.reverse_reverse, hfront]
  · intro c hc
    rw [List.mem_append, List.mem_reverse] at hc
    rcases hc with hc | hc
    · exact List.mem_takeWhile_imp hc
    · exact List.mem_takeWhile_imp hc

lemma dropWhile_append_of_head {p : Char → Bool} {as bs : List Char} (ha : ∀ c ∈ as, p c = true)
    (hb : ∀ c ∈ bs.head?, p c = false) : (as ++ bs).dropWhile p = bs := by
  rw [List.dropWhile_append_of_pos ha]
  cases bs with
  | nil => rfl
  | cons b bs => exact List.dropWhile_cons_of_neg (by simp [hb b rfl])

/-- Blanks around a text that neither begins nor ends with one are all that is trimmed. -/
lemma trimChars_append {before cs after : List Char}
    (hblank : ∀ c ∈ before ++ after, isBlank c = true)
    (hfirst : ∀ c ∈ cs.head?, isBlank c = false) (hlast : ∀ c ∈ cs.getLast?, isBlank c = false) :
    trimChars (before ++ cs ++ after) = cs := by
  have hback : (after.reverse ++ cs.reverse).dropWhile isBlank = cs.reverse :=
    dropWhile_append_of_head (fun c hc => hblank c (by simp_all))
      (by rwa [List.head?_reverse])
  rw [trimChars, dropEndWhile]
  cases cs with
  | nil =>
    have hall : (before ++ [] ++ after).dropWhile isBlank = [] :=
      List.dropWhile_eq_nil_iff.mpr (by simpa using hblank)
    rw [hall]
    rfl
  | cons d cs =>
    have hfront : (before ++ (d :: cs ++ after)).dropWhile isBlank = d :: cs ++ after :=
      dropWhile_append_of_head (fun c hc => hblank c (List.mem_append_left _ hc)) hfirst
    rw [List.append_assoc, hfront, List.reverse_append, hback, List.reverse_reverse]

/-- A text without blanks is what is left when blanks around it are trimmed. -/
lemma trimChars_eq_iff {cs ds : List Char} (h : ∀ c ∈ ds, isBlank c = false) :
    trimChars cs = ds ↔ ∃ before after, cs = before ++ ds ++ after ∧
      ∀ c ∈ before ++ after, isBlank c = true := by
  constructor
  · rintro rfl
    exact trimChars_split cs
  · rintro ⟨before, after, rfl, hblank⟩
    exact trimChars_append hblank (fun c hc => h c (List.mem_of_mem_head? hc))
      fun c hc => h c (List.mem_of_mem_getLast? hc)

end Text

end TeamSync
