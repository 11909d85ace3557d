import Mathlib.Data.List.Basic
import Mathlib.Data.Nat.Notation
import Mathlib.Tactic.Lemma
import TeamSync.Log.Excerpt
import TeamSync.Proofs.ExchangeLog

/-!
What a log shows of tokens and of bodies. The beginning of a long token is shown and the rest is
hidden, but what is long is measured in bytes and the beginning in characters. A body that is too
long is cut between two bytes, and a character that is cut there is shown as U+FFFD.
-/

namespace TeamSync

/-! ### Bytes that are cut off -/

namespace Utf8

/-- The bytes of a text are read as its characters, whatever follows them. -/
lemma parts_encode_append (cs : List Char) (bs : List UInt8) :
    parts (encode cs ++ bs) = cs.map some ++ parts bs := by
  induction cs with
  | nil => rfl
  | cons c cs ih =>
    rw [encode, List.flatMap_cons, List.append_assoc, parts, partsFrom_encodeChar]
    exact congrArg _ ih

/-- The invalid parts that are owed for a character which has begun, should nothing follow. -/
def Pending.owed : Pending → ℕ
  | .idle => 0
  | .want .. => 1

lemma Pending.owed_le_one (p : Pending) : p.owed ≤ 1 := by
  cases p <;> simp [owed]

lemma partsFrom_nil (p : Pending) : partsFrom p [] = List.replicate p.owed none := by
  cases p <;> rfl

lemma length_begins (b : UInt8) : (begins b).1.length + (begins b).2.owed = 1 := by
  unfold begins
  split_ifs <;> rfl

/-- A byte is read into a part or owes one; and it adds at most one to what was owed before it. -/
lemma length_step (p : Pending) (b : UInt8) :
    0 < (step p b).1.length + (step p b).2.owed ∧
      (step p b).1.length + (step p b).2.owed ≤ p.owed + 1 := by
  have hb := length_begins b
  cases p with
  | idle =>
    rw [step, hb]
    simp [Pending.owed]
  | want left lo hi acc =>
    have howed : (Pending.want left lo hi acc).owed = 1 := rfl
    simp only [step]
    split_ifs
    · simp [Pending.owed]
    · simp [Pending.owed]
    · simp only [List.length_cons]
      omega

/-- By induction on the bytes: each is read into at most one part, or completes the part that was
owed before it and is read into one of its own. -/
lemma length_partsFrom_le (p : Pending) (bs : List UInt8) :
    (partsFrom p bs).length ≤ p.owed + bs.length := by
  induction bs generalizing p with
  | nil => simp [partsFrom_nil]
  | cons b bs ih =>
    have hstep := (length_step p b).2
    have hrest := ih (step p b).2
    rw [partsFrom, List.length_append, List.length_cons]
    omega

/-- Bytes are read into no more characters than they are. -/
lemma length_decodeLossy_le (bs : List UInt8) : (decodeLossy bs).length ≤ bs.length := by
  have h := length_partsFrom_le .idle bs
  rw [decodeLossy, List.length_map, parts]
  simpa [Pending.owed] using h

/-- At least what is owed is read. -/
lemma owed_le_length (p : Pending) (bs : List UInt8) : p.owed ≤ (partsFrom p bs).length := by
  induction bs generalizing p with
  | nil => simp [partsFrom_nil]
  | cons b bs ih =>
    have hstep := (length_step p b).1
    have hrest := ih (step p b).2
    have hone := p.owed_le_one
    rw [partsFrom, List.length_append]
    omega

/-- Where there are bytes, something is read. -/
lemma partsFrom_ne_nil (p : Pending) {bs : List UInt8} (h : bs ≠ []) : partsFrom p bs ≠ [] := by
  obtain ⟨b, bs, rfl⟩ := List.exists_cons_of_ne_nil h
  have hstep := (length_step p b).1
  have hrest := owed_le_length (step p b).2 bs
  rw [← List.length_pos_iff, partsFrom, List.length_append]
  omega

/-- Bytes that are read into one part are read into an invalid one where they are cut: nothing can
have come before the cut, so something is owed there. -/
lemma partsFrom_cut {p : Pending} {front rest : List UInt8} {x : Option Char} (hf : front ≠ [])
    (hr : rest ≠ []) (h : partsFrom p (front ++ rest) = [x]) : partsFrom p front = [none] := by
  induction front generalizing p with
  | nil => exact absurd rfl hf
  | cons b front ih =>
    rw [List.cons_append, partsFrom] at h
    have hmore : partsFrom (step p b).2 (front ++ rest) ≠ [] :=
      partsFrom_ne_nil _ (List.append_ne_nil_of_right_ne_nil front hr)
    have hnone : (step p b).1 = [] := by
      rcases hs : (step p b).1 with _ | ⟨y, ys⟩
      · rfl
      · simp [hs, hmore] at h
    rw [hnone, List.nil_append] at h
    rw [partsFrom, hnone, List.nil_append]
    rcases front with _ | ⟨c, front⟩
    · have hstep := length_step p b
      have howed : (step p b).2.owed = 1 := by
        have hone := (step p b).2.owed_le_one
        rw [hnone, List.length_nil] at hstep
        omega
      rw [partsFrom_nil, howed]
      rfl
    · exact ih (by simp) h

/-- A character that is cut is one invalid part. -/
lemma parts_take_encodeChar {c : Char} {k : ℕ} (h0 : 0 < k)
    (hk : k < (String.utf8EncodeChar c).length) :
    parts ((String.utf8EncodeChar c).take k) = [none] := by
  have hwhole := partsFrom_encodeChar c []
  rw [List.append_nil, ← List.take_append_drop k (String.utf8EncodeChar c)] at hwhole
  refine partsFrom_cut ?_ ?_ hwhole
  · rw [← List.length_pos_iff, List.length_take]
    omega
  · rw [← List.length_pos_iff, List.length_drop]
    omega

/-! ### The beginning of a text that fits -/

/-- The longest beginning of a text that fits into some number of bytes. -/
structure IsLongest (n : ℕ) (text front : List Char) : Prop where
  beginning : front <+: text
  fits : (encode front).length ≤ n
  longest : ∀ other, other <+: text → (encode other).length ≤ n → other <+: front

/-- No beginning of a text takes so many bytes, so a cut there goes through a character. -/
def CutsCharacter (n : ℕ) (text : List Char) : Prop :=
  ∀ front, front <+: text → (encode front).length ≠ n

/-- A text that does not fit has a character at which it stops to fit. -/
lemma exists_overflow {n : ℕ} {text : List Char} (h : n < (encode text).length) :
    ∃ front c rest, text = front ++ c :: rest ∧ (encode front).length ≤ n ∧
      n < (encode (front ++ [c])).length := by
  induction text generalizing n with
  | nil => simp [encode] at h
  | cons c text ih =>
    have hcons (cs : List Char) :
        (encode (c :: cs)).length = (encode [c]).length + (encode cs).length := by
      rw [← List.length_append, ← encode_append]
      rfl
    by_cases hc : n < (encode [c]).length
    · exact ⟨[], c, text, rfl, Nat.zero_le n, hc⟩
    · rw [hcons] at h
      obtain ⟨front, d, rest, rfl, hfits, hover⟩ := ih (n := n - (encode [c]).length) (by omega)
      refine ⟨c :: front, d, rest, rfl, ?_, ?_⟩
      · rw [hcons]
        omega
      · rw [List.cons_append, hcons]
        omega

/-- A beginning that fits, but not with the character after it, is the longest that fits. -/
lemma isLongest_of_overflow {n : ℕ} {front rest : List Char} {c : Char}
    (hfits : (encode front).length ≤ n) (hover : n < (encode (front ++ [c])).length) :
    IsLongest n (front ++ c :: rest) front := by
  refine ⟨List.prefix_append .., hfits, fun other hother hlen => ?_⟩
  have hnext : front ++ [c] <+: front ++ c :: rest := ⟨rest, by simp⟩
  rcases List.prefix_or_prefix_of_prefix hother hnext with hshort | ⟨more, rfl⟩
  · rcases List.prefix_concat_iff.mp hshort with rfl | hshort
    · omega
    · exact hshort
  · rw [encode_append, List.length_append] at hlen
    omega

/-- A cut goes through a character just if the longest beginning that fits leaves room. -/
lemma cutsCharacter_iff {n : ℕ} {text front : List Char} (h : IsLongest n text front) :
    CutsCharacter n text ↔ (encode front).length < n := by
  constructor
  · intro hcut
    have hne := hcut front h.beginning
    have hfits := h.fits
    omega
  · rintro hroom other hother heq
    obtain ⟨more, rfl⟩ := h.longest other hother heq.le
    rw [encode_append, List.length_append] at hroom
    omega

/-- **What is read of the first bytes of a text**: the longest beginning that fits, and one invalid
part if the cut goes through a character. -/
theorem decodeLossy_take {n : ℕ} {text : List Char} (h : n < (encode text).length) :
    ∃ front, IsLongest n text front ∧
      ((CutsCharacter n text ∧ decodeLossy ((encode text).take n) = front ++ ['\uFFFD']) ∨
        (¬CutsCharacter n text ∧ decodeLossy ((encode text).take n) = front)) := by
  obtain ⟨front, c, rest, rfl, hfits, hover⟩ := exists_overflow h
  have hlong : IsLongest n (front ++ c :: rest) front := isLongest_of_overflow hfits hover
  refine ⟨front, hlong, ?_⟩
  have hone : encode [c] = String.utf8EncodeChar c := by simp [encode]
  rw [encode_append, List.length_append, hone] at hover
  have hkept : (encode (front ++ c :: rest)).take n =
      encode front ++ (String.utf8EncodeChar c).take (n - (encode front).length) := by
    rw [← List.singleton_append, encode_append, encode_append, hone, List.take_append,
      List.take_of_length_le hfits, List.take_append_of_le_length (by omega)]
  rw [cutsCharacter_iff hlong, hkept, decodeLossy, parts_encode_append, List.map_append]
  have hfront : (front.map some).map (·.getD '\uFFFD') = front := by
    rw [List.map_map]
    exact List.map_id front
  rw [hfront]
  by_cases hroom : (encode front).length < n
  · rw [parts_take_encodeChar (by omega) (by omega)]
    exact .inl ⟨hroom, rfl⟩
  · have hnone : n - (encode front).length = 0 := by omega
    rw [hnone, List.take_zero]
    exact .inr ⟨hroom, List.append_nil front⟩

example : decodeLossy ((encode ['a', 'é', 'b']).take 2) = ['a', '\uFFFD'] := by decide

/-! ### Bytes and characters -/

/-- A text of ASCII characters takes one byte for each. -/
lemma length_ofString_of_ascii {s : String} (h : ∀ c ∈ s.toList, c.toNat < 128) :
    (ofString s).length = s.toList.length := by
  rw [ofString, encode]
  generalize s.toList = cs at h
  induction cs with
  | nil => rfl
  | cons c cs ih =>
    rw [List.flatMap_cons, List.length_append, encodeChar_of_lt (h c (by simp)), List.length_cons,
      ih fun d hd => h d (by simp [hd])]
    simp [Nat.add_comm]

end Utf8

namespace Log

/-! ### Bodies -/

/-- What stands in for the rest of a body. -/
def restMark (n : ℕ) : String := "...[" ++ toString n ++ " bytes truncated]"

lemma excerpt_of_le {body : List UInt8} (h : body.length ≤ 4096) :
    excerpt body = Utf8.toStringLossy body := if_pos h

lemma excerpt_of_gt {body : List UInt8} (h : 4096 < body.length) :
    excerpt body = Utf8.toStringLossy (body.take 4096) ++ restMark (body.length - 4096) := by
  have hlong : ¬body.length ≤ bodyLimit := Nat.not_le.mpr h
  simp only [excerpt, hlong, if_false, restMark, String.append_assoc]
  rfl

/-- Bodies that are equally long and begin alike look alike in the log. -/
lemma excerpt_congr {body other : List UInt8} (hlen : other.length = body.length)
    (htake : other.take 4096 = body.take 4096) : excerpt other = excerpt body := by
  by_cases h : body.length ≤ 4096
  · rw [List.take_of_length_le h, List.take_of_length_le (hlen ▸ h)] at htake
    rw [htake]
  · rw [excerpt_of_gt (by omega), excerpt_of_gt (by omega), htake, hlen]

/-- **What a log shows of a body.** It depends on the first 4096 bytes and on how many there are. A
text that is not longer is shown as it is. Of a longer one is shown the longest beginning that fits
into 4096 bytes, then one U+FFFD if the cut goes through a character, and then how many bytes are
left out. Of bytes that are no text are shown at most 4096 characters. -/
theorem excerpt_of_body (body : List UInt8) :
    (∀ other : List UInt8, other.length = body.length → other.take 4096 = body.take 4096 →
      excerpt other = excerpt body) ∧
    (∀ text : String, body = Utf8.ofString text →
      (body.length ≤ 4096 → excerpt body = text) ∧
      (4096 < body.length → ∃ front mark, Utf8.IsLongest 4096 text.toList front ∧
        (Utf8.CutsCharacter 4096 text.toList ∧ mark = "\uFFFD" ∨
          ¬Utf8.CutsCharacter 4096 text.toList ∧ mark = "") ∧
        excerpt body = String.ofList front ++ mark ++
          ("...[" ++ toString (body.length - 4096) ++ " bytes truncated]"))) ∧
    ∃ shown : String, shown.toList.length ≤ 4096 ∧
      excerpt body = shown ++ if body.length ≤ 4096 then ""
        else "...[" ++ toString (body.length - 4096) ++ " bytes truncated]" := by
  refine ⟨fun other => excerpt_congr, ?text, ?bytes⟩
  case text =>
    rintro text rfl
    refine ⟨fun h => by rw [excerpt_of_le h, Utf8.toStringLossy_ofString], fun h => ?_⟩
    obtain ⟨front, hfront, ⟨hcut, hread⟩ | ⟨hcut, hread⟩⟩ := Utf8.decodeLossy_take h
    · refine ⟨front, "\uFFFD", hfront, .inl ⟨hcut, rfl⟩, ?_⟩
      rw [excerpt_of_gt h, Utf8.toStringLossy, Utf8.ofString, hread, String.ofList_append]
      rfl
    · refine ⟨front, "", hfront, .inr ⟨hcut, rfl⟩, ?_⟩
      rw [excerpt_of_gt h, Utf8.toStringLossy, Utf8.ofString, hread, String.append_empty]
      rfl
  case bytes =>
    have hread (bs : List UInt8) : (Utf8.toStringLossy bs).toList.length ≤ bs.length := by
      rw [Utf8.toStringLossy, String.toList_ofList]
      exact Utf8.length_decodeLossy_le bs
    by_cases h : body.length ≤ 4096
    · refine ⟨_, (hread body).trans h, ?_⟩
      rw [excerpt_of_le h, if_pos h, String.append_empty]
    · refine ⟨_, (hread (body.take 4096)).trans (List.length_take_le ..), ?_⟩
      rw [excerpt_of_gt (by omega), if_neg h, restMark]

/-! ### Tokens -/

/-- A token is long for a log if there are more characters than are shown and it takes more than
twelve bytes. -/
def IsLong (token : String) : Prop := 8 < token.toList.length ∧ 12 < (Utf8.ofString token).length

lemma redact_of_isLong {token : String} (h : IsLong token) :
    redact token = String.ofList (token.toList.take 8) ++ "...[REDACTED]" := by
  have hlong : 8 < token.toList.length ∧ 12 < (Utf8.ofString token).length := h
  rw [redact, if_pos hlong, String.append_assoc]
  rfl

lemma redact_of_not_isLong {token : String} (h : ¬IsLong token) : redact token = "[REDACTED]" :=
  if_neg h

/-- What is shown of a long token has eight characters, and thirteen more are put behind them. -/
lemma length_redact_of_isLong {token : String} (h : IsLong token) :
    (redact token).toList.length = 21 := by
  have htake : (token.toList.take 8).length = 8 := by
    have hmore := h.1
    rw [List.length_take]
    omega
  rw [redact_of_isLong h, String.toList_append, List.length_append, String.toList_ofList, htake]
  rfl

lemma redact_eq_redacted_iff {token : String} : redact token = "[REDACTED]" ↔ ¬IsLong token := by
  refine ⟨fun h hlong => ?_, redact_of_not_isLong⟩
  have hlen := length_redact_of_isLong hlong
  rw [h] at hlen
  exact absurd hlen (by decide)

/-- Two tokens look alike in the log just if nothing is shown of either, or both begin alike. -/
lemma redact_eq_redact_iff {token other : String} :
    redact token = redact other ↔ (¬IsLong token ∧ ¬IsLong other) ∨
      (IsLong token ∧ IsLong other ∧ token.toList.take 8 = other.toList.take 8) := by
  by_cases ht : IsLong token <;> by_cases ho : IsLong other
  · rw [redact_of_isLong ht, redact_of_isLong ho, ← String.toList_inj]
    simp [ht, ho]
  · rw [redact_of_not_isLong ho, redact_eq_redacted_iff]
    simp [ht, ho]
  · rw [redact_of_not_isLong ht, eq_comm, redact_eq_redacted_iff]
    simp [ht, ho]
  · simp [redact_of_not_isLong, ht, ho]

/-- What is asked of a redaction: a token of at most twelve characters is hidden, and of a longer
one exactly the first eight characters are shown. -/
def HidesEnough (token : String) : Prop :=
  (token.toList.length ≤ 12 → redact token = "[REDACTED]") ∧
    (12 < token.toList.length →
      redact token = String.ofList (token.toList.take 8) ++ "...[REDACTED]")

lemma isLong_of_length {token : String} (h : 12 < token.toList.length) : IsLong token := by
  have hbytes := Utf8.length_le_ofString token
  exact ⟨by omega, by omega⟩

lemma hidesEnough_iff {token : String} :
    HidesEnough token ↔ (IsLong token → 12 < token.toList.length) := by
  constructor
  · rintro ⟨hshort, -⟩ hlong
    by_contra hle
    exact redact_eq_redacted_iff.mp (hshort (by omega)) hlong
  · intro h
    refine ⟨fun hle => redact_of_not_isLong fun hlong => ?_, fun hlen =>
      redact_of_isLong (isLong_of_length hlen)⟩
    have hlen := h hlong
    omega

/-- **What a redaction hides.** The first eight characters of a token are shown, none of them cut,
just if there are more of them and the whole takes more than twelve bytes, and otherwise nothing.
Of a token of more than twelve characters they are shown and at least five stay hidden, and two such
tokens that begin alike look alike. Of a token of nine to twelve characters that takes more than
twelve bytes they are shown as well, so that down to one stays hidden; these tokens, none of which
is ASCII, are the only ones of which too little is hidden. -/
theorem redact_hides (token : String) :
    (redact token = "[REDACTED]" ↔
      token.toList.length ≤ 8 ∨ (Utf8.ofString token).length ≤ 12) ∧
    (redact token ≠ "[REDACTED]" → (token.toList.drop 8).length ≠ 0 ∧
      redact token = String.ofList (token.toList.take 8) ++ "...[REDACTED]") ∧
    (12 < token.toList.length → redact token ≠ "[REDACTED]" ∧ 5 ≤ (token.toList.drop 8).length ∧
      ∀ other : String, 12 < other.toList.length →
        (redact token = redact other ↔ token.toList.take 8 = other.toList.take 8)) ∧
    (¬HidesEnough token ↔ 8 < token.toList.length ∧ token.toList.length ≤ 12 ∧
      12 < (Utf8.ofString token).length) ∧
    ((∀ c ∈ token.toList, c.toNat < 128) → HidesEnough token) := by
  refine ⟨?hidden, ?shown, ?long, ?fails, ?ascii⟩
  case hidden =>
    rw [redact_eq_redacted_iff, IsLong]
    omega
  case shown =>
    intro h
    have hlong : IsLong token := by
      by_contra hnot
      exact h (redact_of_not_isLong hnot)
    have hmore := hlong.1
    refine ⟨?_, redact_of_isLong hlong⟩
    rw [List.length_drop]
    omega
  case long =>
    intro hlen
    have hlong := isLong_of_length hlen
    refine ⟨fun h => redact_eq_redacted_iff.mp h hlong, ?_, fun other hother => ?_⟩
    · rw [List.length_drop]
      omega
    · rw [redact_eq_redact_iff]
      simp [hlong, isLong_of_length hother]
  case fails =>
    rw [hidesEnough_iff, IsLong]
    omega
  case ascii =>
    intro hascii
    have hbytes := Utf8.length_ofString_of_ascii hascii
    rw [hidesEnough_iff, IsLong]
    omega

/-- Of nine characters that take two bytes each, one is hidden. -/
theorem redact_hides_one :
    ¬HidesEnough "ééééééééé" ∧ "ééééééééé".toList.length = 9 ∧
      redact "ééééééééé" = "éééééééé...[REDACTED]" := by
  have hshown : redact "ééééééééé" = "éééééééé...[REDACTED]" := by decide +kernel
  refine ⟨fun h => ?_, by decide, hshown⟩
  have hhidden := h.1 (by decide)
  rw [hshown] at hhidden
  exact absurd hhidden (by decide)

end Log

end TeamSync
