import Mathlib.Tactic.SplitIfs
import TeamSync.Json.Value
import TeamSync.Proofs.Json.Grammar
import TeamSync.Proofs.Utf8

/-!
The structure of a printed value: the text of a value is a JSON text, and spells a node that can be
read off the value. Numbers are followed here as long as they are integers.
-/

namespace TeamSync.Json

/-! ### What a value is written as -/

/-- The pieces in which a character is written. -/
def Piece.ofChar (c : Char) : List Piece :=
  if c = '"' then [.short 0x22]
  else if c = '\\' then [.short 0x5C]
  else if c = '\x08' then [.short 0x08]
  else if c = '\x0C' then [.short 0x0C]
  else if c = '\n' then [.short 0x0A]
  else if c = '\r' then [.short 0x0D]
  else if c = '\t' then [.short 0x09]
  else if c.toNat < 0x20 then [.unit c.toNat]
  else (String.utf8EncodeChar c).map .byte

/-- A string as it is written. -/
def StringLiteral.ofString (s : String) : StringLiteral := ⟨s.toList.flatMap Piece.ofChar, none⟩

/-- The value of a decimal digit. -/
def digitValue (c : Char) : ℕ := c.toNat - '0'.toNat

/-- An integer as it is written. -/
def NumberLiteral.ofInt (i : Int) : NumberLiteral :=
  ⟨i < 0, (Numeral.ofNat i.natAbs).map digitValue, [], none, none⟩

/-- A number as it is written, if it is an integer. -/
def Number.literal : Number → NumberLiteral
  | .int i _ => .ofInt i
  | .float x => ⟨x.negative, [], [], none, some .ending⟩

mutual

/-- A value as it is written. -/
def Value.node : Value → Node
  | .null => .null
  | .bool b => .bool b
  | .number n => .number n.literal
  | .string s => .string (.ofString s)
  | .array vs => .array (elementNodes vs) .closed
  | .object ms => .object (memberNodes ms) .closed

def elementNodes : List Value → List Node
  | [] => []
  | v :: vs => v.node :: elementNodes vs

def memberNodes : List (String × Value) → List (StringLiteral × Node)
  | [] => []
  | (k, v) :: ms => (.ofString k, v.node) :: memberNodes ms

end

mutual

/-- Whether all numbers in a value are integers. -/
def Value.whole : Value → Bool
  | .null | .bool _ | .string _ | .number (.int ..) => true
  | .number (.float _) => false
  | .array vs => wholeElements vs
  | .object ms => wholeMembers ms

def wholeElements : List Value → Bool
  | [] => true
  | v :: vs => v.whole && wholeElements vs

def wholeMembers : List (String × Value) → Bool
  | [] => true
  | (_, v) :: ms => v.whole && wholeMembers ms

end

/-! ### Strings -/

lemma encode_cons (c : Char) (cs : List Char) :
    Utf8.encode (c :: cs) = Utf8.encode [c] ++ Utf8.encode cs :=
  Utf8.encode_append [c] cs

lemma plain_of_mem_encodeChar {c : Char} (hq : c ≠ '"') (hb : c ≠ '\\') (hc : ¬c.toNat < 0x20) :
    ∀ b ∈ String.utf8EncodeChar c, Plain b := by
  by_cases h : c.toNat < 128
  · have hq' : c.toNat ≠ 0x22 := fun h => hq (Char.toNat_inj.mp h)
    have hb' : c.toNat ≠ 0x5C := fun h => hb (Char.toNat_inj.mp h)
    intro b hmem
    rw [Utf8.encodeChar_of_lt h, List.mem_singleton] at hmem
    rw [hmem, Plain, ne_eq, ne_eq, ← UInt8.toNat_inj, ← UInt8.toNat_inj, UInt8.lt_iff_toNat_lt,
      Utf8.toNat_byte_of_lt h]
    exact ⟨hq', hb', hc⟩
  · intro b hb
    have hge := Utf8.le_of_mem_encodeChar (by omega) b hb
    simp only [Plain, ne_eq, ← UInt8.toNat_inj, UInt8.lt_iff_toNat_lt]
    refine ⟨fun h => ?_, fun h => ?_, fun h => ?_⟩ <;> simp at h <;> omega

lemma hexDigit_decimal : ∀ d < 10, UInt8.ofNat (hexDigit d).toNat = digitByte d := by decide

lemma hexDigit_letter :
    ∀ d < 6, UInt8.ofNat (hexDigit (10 + d)).toNat = UInt8.ofNat (0x61 + d) := by
  decide

lemma spellsHex_hexDigit {d : ℕ} (h : d < 16) : SpellsHex d (UInt8.ofNat (hexDigit d).toNat) := by
  rcases Nat.lt_or_ge d 10 with hd | hd
  · rw [hexDigit_decimal d hd]
    exact .decimal hd
  · obtain ⟨e, rfl⟩ := Nat.exists_eq_add_of_le hd
    rw [hexDigit_letter e (by omega)]
    exact .lower (by omega)

lemma hexDigit_toNat_lt : ∀ n < 16, (hexDigit n).toNat < 128 := by decide

/-- A character of a string is written as its pieces. -/
lemma spells_escapeChar (c : Char) :
    ∃ parts, List.Forall₂ SpellsPiece (Piece.ofChar c) parts ∧
      Utf8.encode (escapeChar c) = parts.flatten := by
  have hshort {l b : UInt8} (h : (l, b) ∈ shortEscapes) :
      List.Forall₂ SpellsPiece [.short b] [[0x5C, l]] := .cons (.short h) .nil
  simp only [escapeChar, Piece.ofChar]
  split_ifs with h1 h2 h3 h4 h5 h6 h7 h8
  iterate 7 exact ⟨_, hshort (by decide), rfl⟩
  · -- a control character
    have hx := Utf8.encodeChar_of_lt (hexDigit_toNat_lt (c.toNat / 16) (by omega))
    have hy := Utf8.encodeChar_of_lt (hexDigit_toNat_lt (c.toNat % 16) (by omega))
    have hzero : SpellsHex 0 0x30 := .decimal (by decide)
    have hunit := SpellsPiece.unit hzero hzero (spellsHex_hexDigit (d := c.toNat / 16) (by omega))
      (spellsHex_hexDigit (d := c.toNat % 16) (by omega))
    have hvalue : ((0 * 16 + 0) * 16 + c.toNat / 16) * 16 + c.toNat % 16 = c.toNat := by omega
    rw [hvalue] at hunit
    refine ⟨_, .cons hunit .nil, ?_⟩
    simp only [Utf8.encode, List.flatMap_cons, List.flatMap_nil, hx, hy]
    rfl
  · have hplain := plain_of_mem_encodeChar h1 h2 h8
    refine ⟨(String.utf8EncodeChar c).map ([·]), ?_, ?_⟩
    · rw [List.forall₂_map_left_iff, List.forall₂_map_right_iff, List.forall₂_same]
      exact fun b hb => .byte (hplain b hb)
    · rw [← List.flatMap_def, List.flatMap_singleton']
      simp [Utf8.encode]

/-- A string is written between quotes, character for character. -/
lemma spells_quoted (t : String) :
    SpellsString (.ofString t) (Utf8.encode (quoted t)) := by
  have hpieces (cs : List Char) :
      ∃ parts, List.Forall₂ SpellsPiece (cs.flatMap Piece.ofChar) parts ∧
        Utf8.encode (cs.flatMap escapeChar) = parts.flatten := by
    induction cs with
    | nil => exact ⟨[], .nil, rfl⟩
    | cons c cs ih =>
      obtain ⟨parts, hparts, hc⟩ := spells_escapeChar c
      obtain ⟨rest, hrest, hcs⟩ := ih
      refine ⟨parts ++ rest, List.rel_append hparts hrest, ?_⟩
      rw [List.flatMap_cons, Utf8.encode_append, hc, hcs, List.flatten_append]
  obtain ⟨parts, hparts, ht⟩ := hpieces t.toList
  have hbytes : Utf8.encode (quoted t) = 0x22 :: parts.flatten ++ [0x22] := by
    rw [← ht, quoted, encode_cons, Utf8.encode_append]
    rfl
  rw [hbytes]
  exact .intro hparts

/-! ### Numbers -/

lemma toNat_of_isDigit {c : Char} (h : c.isDigit = true) : 48 ≤ c.toNat ∧ c.toNat ≤ 57 := by
  simp only [Char.isDigit, Bool.and_eq_true, decide_eq_true_eq] at h
  exact h

lemma digitValue_lt {c : Char} (h : c.isDigit = true) : digitValue c < 10 := by
  have hc := toNat_of_isDigit h
  have hv : digitValue c = c.toNat - 48 := rfl
  omega

/-- Digits are written as the bytes of their values. -/
lemma encode_digits {cs : List Char} (h : ∀ c ∈ cs, c.isDigit = true) :
    Utf8.encode cs = (cs.map digitValue).map digitByte := by
  induction cs with
  | nil => rfl
  | cons c cs ih =>
    rw [List.forall_mem_cons] at h
    have hc := toNat_of_isDigit h.1
    have hv : 0x30 + digitValue c = c.toNat := by
      rw [show digitValue c = c.toNat - 0x30 from rfl]
      omega
    have hbyte : Utf8.encode [c] = [digitByte (digitValue c)] := by
      simp [Utf8.encode, Utf8.encodeChar_of_lt (show c.toNat < 128 by omega), digitByte, hv]
    rw [encode_cons, hbyte, ih h.2]
    rfl

lemma isDigit_of_mem_ofNat {n : ℕ} {c : Char} (h : c ∈ Numeral.ofNat n) : c.isDigit = true :=
  Nat.isDigit_of_mem_toDigits (by decide) (by decide) h

/-- Only zero begins with the digit zero. -/
lemma head?_ofNat {n : ℕ} (h : n ≠ 0) : (Numeral.ofNat n).head? ≠ some '0' := by
  induction n using Nat.strongRecOn with
  | ind n ih =>
    rcases Nat.lt_or_ge n 10 with hlt | hge
    · rw [Numeral.ofNat, Nat.toDigits_of_lt_base hlt]
      have : ∀ m < 10, m ≠ 0 → [Nat.digitChar m].head? ≠ some '0' := by decide
      exact this n hlt h
    · have hih := ih (n / 10) (by omega) (by omega)
      obtain ⟨c, cs, hc⟩ := List.exists_cons_of_ne_nil (Nat.toDigits_ne_nil (n := n / 10) (b := 10))
      rw [Numeral.ofNat, Nat.toDigits_of_base_le (by decide) hge]
      simpa [Numeral.ofNat, hc] using hih

/-- A number is zero and one digit, or it begins with another digit. -/
lemma ofNat_cases (n : ℕ) :
    (n = 0 ∧ Numeral.ofNat n = ['0']) ∨ ∃ c cs, Numeral.ofNat n = c :: cs ∧ c ≠ '0' ∧
      c.isDigit = true ∧ ∀ d ∈ cs, d.isDigit = true := by
  rcases Nat.eq_zero_or_pos n with rfl | hpos
  · exact .inl ⟨rfl, rfl⟩
  · have hd : ∀ c ∈ Numeral.ofNat n, c.isDigit = true := fun c hc => isDigit_of_mem_ofNat hc
    have hh := head?_ofNat (n := n) (by omega)
    rcases hn : Numeral.ofNat n with _ | ⟨c, cs⟩
    · exact absurd hn Nat.toDigits_ne_nil
    · rw [hn] at hd hh
      exact .inr ⟨c, cs, rfl, by simpa using hh, hd c (by simp), fun d hm => hd d (by simp [hm])⟩

/-- The digits of a number begin with zero only if that is all of them. -/
lemma digits_ofNat (n : ℕ) :
    ∃ d ds, (Numeral.ofNat n).map digitValue = d :: ds ∧ (d = 0 → ds = []) := by
  rcases ofNat_cases n with ⟨-, hn⟩ | ⟨c, cs, hn, hc0, hc, -⟩
  · exact ⟨0, [], by rw [hn]; rfl, fun _ => rfl⟩
  · have hne : c.toNat ≠ 48 := fun h => hc0 (Char.toNat_inj.mp h)
    have hge := toNat_of_isDigit hc
    have hv : digitValue c = c.toNat - 48 := rfl
    exact ⟨digitValue c, cs.map digitValue, by rw [hn]; rfl, fun h => by omega⟩

/-- An integer is written as a number. -/
lemma spells_int (i : Int) : SpellsNumber (.ofInt i) (Utf8.encode (intText i)) := by
  have hsign : Utf8.encode (intText i) =
      (if decide (i < 0) then [0x2D] else []) ++ Utf8.encode (Numeral.ofNat i.natAbs) := by
    rw [intText]
    by_cases hi : i < 0
    · rw [if_pos hi, decide_eq_true hi, encode_cons]
      rfl
    · rw [if_neg hi, decide_eq_false hi]
      rfl
  obtain ⟨d, ds, hdigits, hzero⟩ := digits_ofNat i.natAbs
  have hlt : ∀ e ∈ d :: ds, e < 10 := by
    rw [← hdigits, List.forall_mem_map]
    exact fun c hc => digitValue_lt (isDigit_of_mem_ofNat hc)
  rw [List.forall_mem_cons] at hlt
  have hspells : SpellsNumber ⟨decide (i < 0), d :: ds, [], none, none⟩
      ((if decide (i < 0) then [0x2D] else []) ++ (d :: ds).map digitByte ++ [] ++ []) :=
    .intro hlt.1 hlt.2 hzero (by simp) .none
  rw [hsign, encode_digits fun c hc => isDigit_of_mem_ofNat hc, hdigits, NumberLiteral.ofInt,
    hdigits]
  simpa using hspells

/-! ### Values -/

/-- A value, and a key with its value, may stand without blanks around them. -/
lemma Spells.bare {n : Node} {bs : List UInt8} (h : Spells (.value n) bs) :
    Spells (.element n) bs := by
  simpa using Spells.element blanks_nil h blanks_nil

lemma Spells.bareMember {k : StringLiteral} {n : Node} {ks bs : List UInt8} (hk : SpellsString k ks)
    (h : Spells (.value n) bs) : Spells (.member k n) (ks ++ 0x3A :: bs) := by
  simpa using Spells.member blanks_nil hk blanks_nil h.bare

lemma encode_member (k : String) (v : Value) (cs : List Char) :
    Utf8.encode (quoted k ++ ':' :: (v.render ++ cs)) =
      Utf8.encode (quoted k) ++ 0x3A :: Utf8.encode v.render ++ Utf8.encode cs := by
  have hcolon : Utf8.encode [':'] = [0x3A] := rfl
  rw [Utf8.encode_append, encode_cons ':', hcolon, Utf8.encode_append]
  simp

mutual

/-- **The text of a value spells the value as it is written.** -/
theorem spells_render : ∀ v : Value, v.whole = true → Spells (.value v.node) (Utf8.encode v.render)
  | .null, _ => .null
  | .bool true, _ => .yes
  | .bool false, _ => .no
  | .number (.int i _), _ => .number (spells_int i)
  | .string t, _ => .string (spells_quoted t)
  | .array [], _ => .emptyArray blanks_nil
  | .array (v :: vs), hv => by
    obtain ⟨hv, hvs⟩ : v.whole = true ∧ wholeElements vs = true := by
      simpa [Value.whole, wholeElements] using hv
    obtain ⟨bs, hbs, h⟩ := spells_renderElements vs hvs (spells_render v hv).bare
    rw [Value.render, encode_cons, Utf8.encode_append, hbs]
    exact .array h
  | .object [], _ => .emptyObject blanks_nil
  | .object ((k, v) :: ms), hv => by
    obtain ⟨hv, hms⟩ : v.whole = true ∧ wholeMembers ms = true := by
      simpa [Value.whole, wholeMembers] using hv
    obtain ⟨bs, hbs, h⟩ :=
      spells_renderMembers ms hms (.bareMember (spells_quoted k) (spells_render v hv))
    rw [Value.render, encode_cons, encode_member, hbs]
    exact .object h

/-- The text of the elements after one, with the end of the array, spells these elements. -/
theorem spells_renderElements {n : Node} {cs : List UInt8} :
    ∀ vs : List Value, wholeElements vs = true → Spells (.element n) cs →
      ∃ bs, cs ++ Utf8.encode (renderElements vs) = bs ++ [0x5D] ∧
        Spells (.elements (n :: elementNodes vs)) bs
  | [], _, h => ⟨cs, rfl, .lastElement h⟩
  | v :: vs, hv, h => by
    obtain ⟨hv, hvs⟩ : v.whole = true ∧ wholeElements vs = true := by
      simpa [wholeElements] using hv
    obtain ⟨bs, hbs, hrest⟩ := spells_renderElements vs hvs (spells_render v hv).bare
    refine ⟨cs ++ 0x2C :: bs, ?_, .nextElement h hrest⟩
    have hcomma : Utf8.encode [','] = [0x2C] := rfl
    rw [renderElements, encode_cons, Utf8.encode_append, hbs, hcomma]
    simp

/-- The text of the members after one, with the end of the object, spells these members. -/
theorem spells_renderMembers {k : StringLiteral} {n : Node} {cs : List UInt8} :
    ∀ ms : List (String × Value), wholeMembers ms = true → Spells (.member k n) cs →
      ∃ bs, cs ++ Utf8.encode (renderMembers ms) = bs ++ [0x7D] ∧
        Spells (.members ((k, n) :: memberNodes ms)) bs
  | [], _, h => ⟨cs, rfl, .lastMember h⟩
  | (key, v) :: ms, hv, h => by
    obtain ⟨hv, hms⟩ : v.whole = true ∧ wholeMembers ms = true := by
      simpa [wholeMembers] using hv
    obtain ⟨bs, hbs, hrest⟩ :=
      spells_renderMembers ms hms (.bareMember (spells_quoted key) (spells_render v hv))
    refine ⟨cs ++ 0x2C :: bs, ?_, .nextMember h hrest⟩
    have hcomma : Utf8.encode [','] = [0x2C] := rfl
    rw [renderMembers, encode_cons, encode_member, hbs, hcomma]
    simp

end

/-- What is printed is a JSON text. -/
theorem isText_toText {v : Value} (h : v.whole = true) :
    IsText (Utf8.ofString v.toText) v.node := by
  rw [Utf8.ofString, Value.toText, String.toList_ofList]
  exact (spells_render v h).bare

/-- **The text of a value scans to the value as it is written.** -/
theorem scan_toText {v : Value} (h : v.whole = true) :
    scan (Utf8.ofString v.toText) = ⟨v.node, false⟩ := (isText_toText h).scan

end TeamSync.Json
