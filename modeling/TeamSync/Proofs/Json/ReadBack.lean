import TeamSync.Json.Decoder
import TeamSync.Proofs.Json.Printed

/-!
Reading back what was printed. A string comes back character for character, an integer as it was,
and a whole value with its objects in the order of their keys.
-/

namespace TeamSync.Json

/-! ### Strings -/

namespace Piece

lemma assemble_bytes (bs : List UInt8) (ps : List Piece) :
    assemble none (bs.map .byte ++ ps) = (assemble none ps).map (bs ++ ·) := by
  induction bs with
  | nil =>
    rw [List.map_nil, List.nil_append]
    rcases assemble none ps with _ | _ <;> rfl
  | cons b bs ih =>
    rw [List.map_cons, List.cons_append, assemble, ih]
    rcases assemble none ps with _ | _ <;> rfl

/-- A control character is no surrogate. -/
lemma assemble_control {u : ℕ} (h : u < 0x20) (ps : List Piece) :
    assemble none (.unit u :: ps) =
      (assemble none ps).map (String.utf8EncodeChar (Char.ofNat u) ++ ·) := by
  have hlow : ¬(0xDC00 ≤ u ∧ u ≤ 0xDFFF) := by omega
  have hhigh : ¬(0xD800 ≤ u ∧ u ≤ 0xDBFF) := by omega
  conv =>
    lhs
    unfold assemble
  exact (if_neg hlow).trans (if_neg hhigh)

/-- A character is put together again from its pieces. -/
lemma assemble_ofChar (c : Char) (ps : List Piece) :
    assemble none (ofChar c ++ ps) = (assemble none ps).map (String.utf8EncodeChar c ++ ·) := by
  rw [ofChar]
  split_ifs with h1 h2 h3 h4 h5 h6 h7 h8
  iterate 7
    · subst c; rfl
  · rw [List.singleton_append, assemble_control h8, Char.ofNat_toNat]
  · exact assemble_bytes _ ps

lemma assemble_flatMap (cs : List Char) :
    assemble none (cs.flatMap ofChar) = .ok (Utf8.encode cs) := by
  induction cs with
  | nil => rfl
  | cons c cs ih =>
    rw [List.flatMap_cons, assemble_ofChar, ih]
    rfl

end Piece

/-- **Every string is read back as it was.** -/
@[simp] theorem StringLiteral.read_ofString (s : String) : (ofString s).read = .ok s := by
  have h : Utf8.toString? (Utf8.encode s.toList) = some s := Utf8.toString?_ofString s
  simp [read, ofString, Piece.assemble_flatMap, h, bind, Except.bind]

/-! ### Integers -/

namespace NumberLiteral

lemma digitsValue_ofNat (n : ℕ) : digitsValue ((Numeral.ofNat n).map digitValue) = n := by
  have h := Nat.ofDigitChars_ten_toDigits (n := n)
  rw [Nat.ofDigitChars_eq_foldl] at h
  rw [digitsValue, List.foldl_map]
  simp only [Nat.mul_comm 10] at h
  exact h

/-- **Every integer of 64 bits is read back as it was.** -/
theorem read_ofInt {i : Int} (h : -0x8000000000000000 ≤ i ∧ i < 0x10000000000000000) :
    (ofInt i).read = .ok (.int i h) := by
  rcases Int.lt_or_le i 0 with hi | hi
  · obtain ⟨n, rfl⟩ : ∃ n : ℕ, i = -n := ⟨i.natAbs, by omega⟩
    have hv : 0 < n ∧ n ≤ 0x8000000000000000 := by omega
    simp [read, ofInt, digitsValue_ofNat, hv]
  · obtain ⟨n, rfl⟩ := Int.eq_ofNat_of_zero_le hi
    have hv : n < 0x10000000000000000 := by omega
    simp [read, ofInt, digitsValue_ofNat, Int.not_lt.mpr hi, hv]

end NumberLiteral

/-! ### Values -/

namespace Members

variable {key k : String}

lemma insert_nil (v : Value) : insert key v [] = [(key, v)] := rfl

/-- A member goes before one with a greater key. -/
lemma insert_of_lt (h : key < k) (v w : Value) (ms : Members) :
    insert key v ((k, w) :: ms) = (key, v) :: (k, w) :: ms := if_pos h

/-- A member goes after one with a smaller key. -/
lemma insert_of_gt (h : k < key) (v w : Value) (ms : Members) :
    insert key v ((k, w) :: ms) = (k, w) :: insert key v ms := by
  have hlt : ¬key < k := fun hk => String.lt_asymm h hk
  have hne : key ≠ k := fun hk => String.lt_irrefl k (hk ▸ h)
  rw [insert, if_neg hlt, if_neg hne]

end Members

mutual

/-- How deep the containers of a value are nested. -/
def Value.depth : Value → ℕ
  | .null | .bool _ | .number _ | .string _ => 0
  | .array vs => elementsDepth vs + 1
  | .object ms => membersDepth ms + 1

def elementsDepth : List Value → ℕ
  | [] => 0
  | v :: vs => max v.depth (elementsDepth vs)

def membersDepth : List (String × Value) → ℕ
  | [] => 0
  | (_, v) :: ms => max v.depth (membersDepth ms)

end

mutual

/-- A value with the members of its objects in the order of their keys. -/
def Value.sorted : Value → Value
  | .array vs => .array (sortedElements vs)
  | .object ms => .object (Members.ofList (sortedMembers ms))
  | v => v

def sortedElements : List Value → List Value
  | [] => []
  | v :: vs => v.sorted :: sortedElements vs

def sortedMembers : List (String × Value) → List (String × Value)
  | [] => []
  | (k, v) :: ms => (k, v.sorted) :: sortedMembers ms

end

mutual

/-- **A value is read back**, with its objects sorted, if it is not nested too deep. -/
theorem value_node {depth : ℕ} :
    ∀ v : Value, v.whole = true → v.depth ≤ depth → v.node.value depth = .ok v.sorted
  | .null, _, _ => rfl
  | .bool _, _, _ => rfl
  | .number (.int i h), _, _ => by
    rw [Value.node, Node.value, Number.literal, NumberLiteral.read_ofInt h]
    rfl
  | .string s, _, _ => by
    rw [Value.node, Node.value, StringLiteral.read_ofString]
    rfl
  | .array vs, hw, hd => by
    have hd : elementsDepth vs + 1 ≤ depth := by simpa [Value.depth] using hd
    have hw : wholeElements vs = true := by simpa [Value.whole] using hw
    rw [Value.node, Node.value, if_neg (by omega), valueElements_nodes vs hw (by omega)]
    rfl
  | .object ms, hw, hd => by
    have hd : membersDepth ms + 1 ≤ depth := by simpa [Value.depth] using hd
    have hw : wholeMembers ms = true := by simpa [Value.whole] using hw
    rw [Value.node, Node.value, if_neg (by omega), valueMembers_nodes ms hw (by omega)]
    rfl

/-- The elements of an array are read back, with their objects sorted. -/
theorem valueElements_nodes {depth : ℕ} :
    ∀ vs : List Value, wholeElements vs = true → elementsDepth vs ≤ depth →
      valueElements depth (elementNodes vs) = .ok (sortedElements vs)
  | [], _, _ => rfl
  | v :: vs, hw, hd => by
    have hw : v.whole = true ∧ wholeElements vs = true := by simpa [wholeElements] using hw
    have hd : v.depth ≤ depth ∧ elementsDepth vs ≤ depth := by
      rw [elementsDepth] at hd
      omega
    rw [elementNodes, valueElements, value_node v hw.1 hd.1, valueElements_nodes vs hw.2 hd.2]
    rfl

/-- The members of an object are read back, each put in its place among those read before. -/
theorem valueMembers_nodes {depth : ℕ} {acc : Members} :
    ∀ ms : List (String × Value), wholeMembers ms = true → membersDepth ms ≤ depth →
      valueMembers depth acc (memberNodes ms) =
        .ok ((sortedMembers ms).foldl (fun acc m => acc.insert m.1 m.2) acc)
  | [], _, _ => rfl
  | (k, v) :: ms, hw, hd => by
    have hw : v.whole = true ∧ wholeMembers ms = true := by simpa [wholeMembers] using hw
    have hd : v.depth ≤ depth ∧ membersDepth ms ≤ depth := by
      rw [membersDepth] at hd
      omega
    rw [memberNodes, valueMembers, StringLiteral.read_ofString, value_node v hw.1 hd.1]
    exact valueMembers_nodes ms hw.2 hd.2

end

/-- What is not kept of a value is passed over, however deep it is nested. -/
theorem Value.skim_node (v : Value) (hw : v.whole = true) : v.node.skim = .ok () :=
  (isText_toText hw).skim

theorem skimMembers_nodes (ms : List (String × Value)) (hw : wholeMembers ms = true) :
    skimMembers (memberNodes ms) = .ok () :=
  (skim_object_iff.mp ((Value.object ms).skim_node hw)).2

/-- What a decoder makes of a text depends on what the text scans to and on nothing else. -/
lemma Decoder.decode_of_scan {α : Type} {body : List UInt8} {n : Node} (h : scan body = ⟨n, false⟩)
    (d : Decoder α) : d.decode body = d depthLimit n := by
  simp only [decode, h]
  rcases d depthLimit n with e | a <;> rfl

theorem Decoder.decode_toText {α : Type} {d : Decoder α} {v : Value} (hw : v.whole = true) {a : α}
    (h : d depthLimit v.node = .ok a) : d.decode (Utf8.ofString v.toText) = .ok a := by
  rw [decode_of_scan (scan_toText hw), h]

/-- **A printed value parses to the value**, its objects sorted. -/
theorem parse_toText {v : Value} (hw : v.whole = true) (hd : v.depth ≤ depthLimit) :
    parse (Utf8.ofString v.toText) = .ok v.sorted :=
  Decoder.decode_toText hw (value_node v hw hd)

end TeamSync.Json
