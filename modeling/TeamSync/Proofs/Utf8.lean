import Mathlib.Data.Nat.Notation
import Mathlib.Tactic.Lemma
import Mathlib.Tactic.SplitIfs
import TeamSync.Text.Utf8

/-!
Reading UTF-8 back. The bytes of a character are read as that character and leave the reading where
it was before, so the bytes of a text are read as its characters.
-/

namespace TeamSync.Utf8

/-! ### What a byte begins -/

lemma begins_one {b : UInt8} {n : ℕ} (hb : b.toNat = n) (h : n < 128) :
    begins b = ([some (Char.ofNat n)], .idle) := by
  simp [begins, UInt8.lt_iff_toNat_lt, hb, h]

lemma begins_two {b : UInt8} {x : ℕ} (hb : b.toNat = x + 192) (h : 2 ≤ x) (hx : x < 32) :
    begins b = ([], .want 1 0x80 0xBF x) := by
  have h1 : ¬x + 192 < 128 := by omega
  have h2 : ¬x + 192 < 194 := by omega
  have h3 : x + 192 < 224 := by omega
  simp [begins, UInt8.lt_iff_toNat_lt, hb, h1, h2, h3]

lemma begins_three {b : UInt8} {x : ℕ} (hb : b.toNat = x + 224) (hx : x < 16) :
    begins b = ([], .want 2 (if x = 0 then 0xA0 else 0x80) (if x = 13 then 0x9F else 0xBF) x) := by
  have h1 : ¬x + 224 < 128 := by omega
  have h2 : ¬x + 224 < 194 := by omega
  have h3 : ¬x + 224 < 224 := by omega
  have h4 : x + 224 < 240 := by omega
  simp [begins, UInt8.lt_iff_toNat_lt, ← UInt8.toNat_inj, hb, h1, h2, h3, h4]

lemma begins_four {b : UInt8} {x : ℕ} (hb : b.toNat = x + 240) (hx : x < 5) :
    begins b = ([], .want 3 (if x = 0 then 0x90 else 0x80) (if x = 4 then 0x8F else 0xBF) x) := by
  have h1 : ¬x + 240 < 128 := by omega
  have h2 : ¬x + 240 < 194 := by omega
  have h3 : ¬x + 240 < 224 := by omega
  have h4 : ¬x + 240 < 240 := by omega
  have h5 : x + 240 < 245 := by omega
  simp [begins, UInt8.lt_iff_toNat_lt, ← UInt8.toNat_inj, hb, h1, h2, h3, h4, h5]

lemma partsFrom_of_begins {b : UInt8} {p : Pending} (h : begins b = ([], p)) (bs : List UInt8) :
    partsFrom .idle (b :: bs) = partsFrom p bs := by
  simp [partsFrom, step, h]

/-! ### What continues it -/

section Continuing

variable {acc y : ℕ} {lo hi b : UInt8} (hb : b.toNat = y + 128) (hlo : lo.toNat ≤ y + 128)
  (hhi : y + 128 ≤ hi.toNat)
include hb hlo hhi

/-- A byte that continues a character adds six bits to it. -/
lemma partsFrom_want (left : ℕ) (bs : List UInt8) :
    partsFrom (.want (left + 2) lo hi acc) (b :: bs) =
      partsFrom (.want (left + 1) 0x80 0xBF (acc * 64 + y)) bs := by
  have hin : lo ≤ b ∧ b ≤ hi := by
    rw [UInt8.le_iff_toNat_le, UInt8.le_iff_toNat_le, hb]
    exact ⟨hlo, hhi⟩
  simp [partsFrom, step, hin, hb]

/-- The last byte of a character completes it. -/
lemma partsFrom_want_one (bs : List UInt8) :
    partsFrom (.want 1 lo hi acc) (b :: bs) =
      some (Char.ofNat (acc * 64 + y)) :: partsFrom .idle bs := by
  have hin : lo ≤ b ∧ b ≤ hi := by
    rw [UInt8.le_iff_toNat_le, UInt8.le_iff_toNat_le, hb]
    exact ⟨hlo, hhi⟩
  simp [partsFrom, step, hin, hb]

end Continuing

/-! ### Characters -/

section Characters

variable {b₁ b₂ b₃ b₄ : UInt8} {x y z w : ℕ} (bs : List UInt8)

lemma partsFrom_two (h₁ : b₁.toNat = x + 192) (h₂ : b₂.toNat = y + 128) (hx : 2 ≤ x) (hx' : x < 32)
    (hy : y < 64) :
    partsFrom .idle (b₁ :: b₂ :: bs) = some (Char.ofNat (x * 64 + y)) :: partsFrom .idle bs := by
  rw [partsFrom_of_begins (begins_two h₁ hx hx'), partsFrom_want_one h₂ (by simp) (by simp; omega)]

/-- A first byte `0xE0` asks for more than `0x80`, so that no shorter form is read; after `0xED`
stand no surrogates. -/
lemma partsFrom_three (h₁ : b₁.toNat = x + 224) (h₂ : b₂.toNat = y + 128) (h₃ : b₃.toNat = z + 128)
    (hx : x < 16) (hy : y < 64) (hz : z < 64) (hlo : x = 0 → 32 ≤ y) (hhi : x = 13 → y < 32) :
    partsFrom .idle (b₁ :: b₂ :: b₃ :: bs) =
      some (Char.ofNat ((x * 64 + y) * 64 + z)) :: partsFrom .idle bs := by
  rw [partsFrom_of_begins (begins_three h₁ hx),
    partsFrom_want h₂ (by split_ifs <;> simp; omega) (by split_ifs <;> simp <;> omega),
    partsFrom_want_one h₃ (by simp) (by simp; omega)]

lemma partsFrom_four (h₁ : b₁.toNat = x + 240) (h₂ : b₂.toNat = y + 128) (h₃ : b₃.toNat = z + 128)
    (h₄ : b₄.toNat = w + 128) (hx : x < 5) (hy : y < 64) (hz : z < 64) (hw : w < 64)
    (hlo : x = 0 → 16 ≤ y) (hhi : x = 4 → y < 16) :
    partsFrom .idle (b₁ :: b₂ :: b₃ :: b₄ :: bs) =
      some (Char.ofNat (((x * 64 + y) * 64 + z) * 64 + w)) :: partsFrom .idle bs := by
  rw [partsFrom_of_begins (begins_four h₁ hx),
    partsFrom_want h₂ (by split_ifs <;> simp; omega) (by split_ifs <;> simp <;> omega),
    partsFrom_want h₃ (by simp) (by simp; omega), partsFrom_want_one h₄ (by simp) (by simp; omega)]

end Characters

/-- The surrogates are no characters. -/
lemma toNat_valid (c : Char) : c.toNat < 0xD800 ∨ 0xDFFF < c.toNat ∧ c.toNat < 0x110000 := c.valid

/-- **The bytes of a character are read as that character.** -/
theorem partsFrom_encodeChar (c : Char) (bs : List UInt8) :
    partsFrom .idle (String.utf8EncodeChar c ++ bs) = some c :: partsFrom .idle bs := by
  have hv := toNat_valid c
  have hc : Char.ofNat c.toNat = c := Char.ofNat_toNat c
  generalize hn : c.toNat = n at hv hc
  have hval : c.val.toNat = n := hn
  have byte {m : ℕ} (h : m < 256) : (UInt8.ofNat m).toNat = m := UInt8.toNat_ofNat_of_lt' h
  simp only [String.utf8EncodeChar, hval]
  by_cases h1 : n ≤ 127
  · simp [h1, partsFrom, step, begins_one (byte (by omega : n < 256)) (by omega), hc]
  by_cases h2 : n ≤ 2047
  · simp only [h1, h2, if_true, if_false, List.cons_append, List.nil_append]
    rw [partsFrom_two (x := n / 64 % 32) (y := n % 64) bs (byte (by omega)) (byte (by omega))
      (by omega) (by omega) (by omega), show n / 64 % 32 * 64 + n % 64 = n by omega, hc]
  by_cases h3 : n ≤ 65535
  · simp only [h1, h2, h3, if_true, if_false, List.cons_append, List.nil_append]
    rw [partsFrom_three (x := n / 4096 % 16) (y := n / 64 % 64) (z := n % 64) bs (byte (by omega))
      (byte (by omega)) (byte (by omega)) (by omega) (by omega) (by omega) (by omega) (by omega),
      show (n / 4096 % 16 * 64 + n / 64 % 64) * 64 + n % 64 = n by omega, hc]
  · simp only [h1, h2, h3, if_false, List.cons_append, List.nil_append]
    rw [partsFrom_four (x := n / 262144 % 8) (y := n / 4096 % 64) (z := n / 64 % 64)
      (w := n % 64) bs (byte (by omega)) (byte (by omega)) (byte (by omega)) (byte (by omega))
      (by omega) (by omega) (by omega) (by omega) (by omega) (by omega),
      show ((n / 262144 % 8 * 64 + n / 4096 % 64) * 64 + n / 64 % 64) * 64 + n % 64 = n by omega,
      hc]

lemma parts_encode (cs : List Char) : parts (encode cs) = cs.map some := by
  induction cs with
  | nil => rfl
  | cons c cs ih =>
    rw [parts, encode, List.flatMap_cons, partsFrom_encodeChar, List.map_cons]
    exact congrArg _ ih

/-- **The bytes of a text are read as its characters.** -/
theorem decode?_encode (cs : List Char) : decode? (encode cs) = some cs := by
  rw [decode?, parts_encode]
  induction cs with
  | nil => rfl
  | cons c cs ih => simp [List.mapM_cons, ih]

lemma toString?_ofString (s : String) : toString? (ofString s) = some s := by
  simp [toString?, ofString, decode?_encode]

/-- Nothing of a text is lost where invalid parts are put up with. -/
lemma decodeLossy_encode (cs : List Char) : decodeLossy (encode cs) = cs := by
  rw [decodeLossy, parts_encode, List.map_map]
  exact List.map_id cs

lemma toStringLossy_ofString (s : String) : toStringLossy (ofString s) = s := by
  rw [toStringLossy, ofString, decodeLossy_encode, String.ofList_toList]

lemma encode_append (cs ds : List Char) : encode (cs ++ ds) = encode cs ++ encode ds :=
  List.flatMap_append

/-! ### Bytes of ASCII characters -/

lemma toNat_byte_of_lt {c : Char} (h : c.toNat < 128) : (UInt8.ofNat c.toNat).toNat = c.toNat :=
  UInt8.toNat_ofNat_of_lt' (Nat.lt_trans h (by decide))

lemma encodeChar_of_lt {c : Char} (h : c.toNat < 128) :
    String.utf8EncodeChar c = [UInt8.ofNat c.toNat] := by
  have hval : c.val.toNat ≤ 127 := by
    have : c.val.toNat = c.toNat := rfl
    omega
  simp only [String.utf8EncodeChar, hval, if_true]
  rfl

/-- No byte of another character is ASCII. -/
lemma le_of_mem_encodeChar {c : Char} (h : 128 ≤ c.toNat) :
    ∀ b ∈ String.utf8EncodeChar c, 128 ≤ b.toNat := by
  have hv := toNat_valid c
  have hval : c.val.toNat = c.toNat := rfl
  have high {m : ℕ} (h : 128 ≤ m ∧ m < 256) : 128 ≤ (UInt8.ofNat m).toNat := by
    rw [UInt8.toNat_ofNat_of_lt' h.2]; exact h.1
  simp only [String.utf8EncodeChar, hval, show ¬c.toNat ≤ 127 by omega, if_false]
  split_ifs <;>
    simp only [List.forall_mem_cons, List.not_mem_nil, false_implies, implies_true, and_true]
  · exact ⟨high (by omega), high (by omega)⟩
  · exact ⟨high (by omega), high (by omega), high (by omega)⟩
  · exact ⟨high (by omega), high (by omega), high (by omega), high (by omega)⟩

end TeamSync.Utf8
