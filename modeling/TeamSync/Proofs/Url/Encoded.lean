import TeamSync.Proofs.Url.Segments
import TeamSync.Url.Percent

/-!
Encoded text. What encoding leaves are characters that it does not touch, so encoding what is
encoded changes nothing, and an encoded byte is read as that byte.
-/

namespace TeamSync.Url

/-- A character that a part of a URL holds as it is. -/
def EncodeSet.Keeps (set : EncodeSet) (c : Char) : Prop :=
  0x20 ≤ c.toNat ∧ c.toNat < 0x7F ∧ c ∉ set.chars

instance (set : EncodeSet) : DecidablePred set.Keeps := fun _ => by
  unfold EncodeSet.Keeps; infer_instance

/-- The characters of encoded bytes. -/
def escapeChars : List Char := '%' :: (List.range 16).map hexUpper

lemma mem_escapeChars {n : ℕ} (h : n < 16) : hexUpper n ∈ escapeChars :=
  List.mem_cons_of_mem _ (List.mem_map_of_mem (List.mem_range.mpr h))

/-- A set that leaves encoded bytes alone. -/
def EncodeSet.KeepsEscapes (set : EncodeSet) : Prop := ∀ c ∈ escapeChars, set.Keeps c

lemma keepsEscapes_controlSet : controlSet.KeepsEscapes := by unfold EncodeSet.KeepsEscapes; decide
lemma keepsEscapes_pathSet : pathSet.KeepsEscapes := by unfold EncodeSet.KeepsEscapes; decide
lemma keepsEscapes_userinfoSet : userinfoSet.KeepsEscapes := by
  unfold EncodeSet.KeepsEscapes; decide

variable {set : EncodeSet} {c : Char} {cs ds : List Char}

lemma encodeChar_of_keeps (h : set.Keeps c) : encodeChar set c = [c] := by
  obtain ⟨hlo, hhi, hc⟩ := h
  have : ¬(c.toNat < 0x20 ∨ 0x7F ≤ c.toNat ∨ c ∈ set.chars) := by
    rintro (h | h | h)
    · omega
    · omega
    · exact hc h
  rw [encodeChar, if_neg this]

/-- Encoding changes nothing in a text of such characters. -/
lemma encode_of_keeps (h : ∀ c ∈ cs, set.Keeps c) : encode set cs = cs := by
  induction cs with
  | nil => rfl
  | cons c cs ih =>
    rw [encode, List.flatMap_cons, encodeChar_of_keeps (h c List.mem_cons_self)]
    exact congrArg _ (ih fun d hd => h d (List.mem_cons_of_mem _ hd))

lemma mem_encodeByte {b : UInt8} (h : c ∈ encodeByte b) : c ∈ escapeChars := by
  have hb := b.toNat_lt
  simp only [encodeByte, List.mem_cons, List.not_mem_nil, or_false] at h
  rcases h with rfl | rfl | rfl
  · exact List.mem_cons_self
  · exact mem_escapeChars (by omega)
  · exact mem_escapeChars (by omega)

/-- What encoding leaves is a character of the text that may stand there, or one of an encoded byte.
-/
lemma mem_encode (h : c ∈ encode set cs) : c ∈ cs ∧ set.Keeps c ∨ c ∈ escapeChars := by
  obtain ⟨d, hd, hc⟩ := List.mem_flatMap.mp h
  rw [encodeChar] at hc
  split at hc
  · obtain ⟨b, -, hb⟩ := List.mem_flatMap.mp hc
    exact .inr (mem_encodeByte hb)
  · next hkeep =>
    rw [List.mem_singleton.mp hc]
    have hlo : ¬d.toNat < 0x20 := fun h => hkeep (.inl h)
    have hhi : ¬0x7F ≤ d.toNat := fun h => hkeep (.inr (.inl h))
    exact .inl ⟨hd, by omega, by omega, fun h => hkeep (.inr (.inr h))⟩

lemma keeps_of_mem_encode (hs : set.KeepsEscapes) (h : c ∈ encode set cs) : set.Keeps c :=
  (mem_encode h).elim And.right (hs c)

/-- **Encoded text is not encoded again.** -/
theorem encode_encode (hs : set.KeepsEscapes) (cs : List Char) :
    encode set (encode set cs) = encode set cs :=
  encode_of_keeps fun _ => keeps_of_mem_encode hs

lemma encode_ne_nil (h : cs ≠ []) : encode set cs ≠ [] := by
  obtain ⟨c, cs, rfl⟩ := List.exists_cons_of_ne_nil h
  have hc : encodeChar set c ≠ [] := by
    rw [encodeChar]
    split
    · have := String.utf8EncodeChar_ne_nil (c := c)
      obtain ⟨b, bs, hb⟩ := List.exists_cons_of_ne_nil this
      rw [hb, List.flatMap_cons, encodeByte]
      exact List.cons_ne_nil _ _
    · exact List.cons_ne_nil _ _
  rw [encode, List.flatMap_cons]
  exact fun h => hc (List.append_eq_nil_iff.mp h).1

/-! ### Reading -/

lemma hexValue?_hexUpper {n : ℕ} (h : n < 16) : hexValue? (hexUpper n) = some n := by
  have hall : ∀ n < 16, hexValue? (hexUpper n) = some n := by decide
  exact hall n h

/-- An encoded byte is read as that byte. -/
lemma percentDecode_encodeByte (b : UInt8) (cs : List Char) :
    percentDecode (encodeByte b ++ cs) = b :: percentDecode cs := by
  have hb := b.toNat_lt
  have hhi : hexValue? (hexUpper (b.toNat / 16)) = some (b.toNat / 16) :=
    hexValue?_hexUpper (by omega)
  have hlo : hexValue? (hexUpper (b.toNat % 16)) = some (b.toNat % 16) :=
    hexValue?_hexUpper (by omega)
  have hsum : b.toNat / 16 * 16 + b.toNat % 16 = b.toNat := by omega
  simp only [encodeByte, List.cons_append, List.nil_append, percentDecode, hhi, hlo, hsum]
  rw [Nat.toUInt8, UInt8.ofNat_toNat]

lemma percentDecode_encodeBytes (bs : List UInt8) (cs : List Char) :
    percentDecode (bs.flatMap encodeByte ++ cs) = bs ++ percentDecode cs := by
  induction bs with
  | nil => rfl
  | cons b bs ih =>
    rw [List.flatMap_cons, List.append_assoc, percentDecode_encodeByte, ih, List.cons_append]

/-- A character that begins no encoded byte is read as its own bytes. -/
lemma percentDecode_cons (h : c ≠ '%') (cs : List Char) :
    percentDecode (c :: cs) = String.utf8EncodeChar c ++ percentDecode cs := by
  rw [percentDecode]
  rintro - - - rfl
  exact absurd rfl h

end TeamSync.Url
