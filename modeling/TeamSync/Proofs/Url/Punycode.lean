import Mathlib.Data.List.TakeWhile
import Mathlib.Data.Nat.Notation
import Mathlib.Tactic.Lemma
import Mathlib.Tactic.Ring
import Mathlib.Tactic.SplitIfs
import TeamSync.Url.Punycode

/-!
Punycode is read back. While a character is inserted all over a text, the place of the next
insertion that the reader has, and the distance that the writer has counted from there, add up to
the place that has been reached.
-/

namespace TeamSync.Url.Punycode

/-! ### Digits -/

/-- The digits of base 36. -/
def digits : List Char := (List.range base).map digit

lemma digitValue?_digit : ∀ d < base, digitValue? (digit d) = some d := by decide

lemma mem_digits {d : ℕ} (h : d < base) : digit d ∈ digits :=
  List.mem_map_of_mem (List.mem_range.mpr h)

/-- The values of the digits of a number after the first: what is left of it, and the digit that is
written. -/
lemma rest_lt {n t : ℕ} (ht : 0 < t) (hn : t ≤ n) : (n - t) / (base - t) < n := by
  have := Nat.div_le_self (n - t) (base - t)
  omega

lemma digit_lt {n t : ℕ} (ht : t < base) : t + (n - t) % (base - t) < base := by
  have := Nat.mod_lt (n - t) (show 0 < base - t by omega)
  omega

lemma digit_add_rest {n t : ℕ} (hn : t ≤ n) :
    t + (n - t) % (base - t) + (n - t) / (base - t) * (base - t) = n := by
  have := Nat.mod_add_div' (n - t) (base - t)
  omega

lemma mem_writeNumber {bias weight n : ℕ} {c : Char} (h : c ∈ writeNumber bias weight n) :
    c ∈ digits := by
  induction n using Nat.strongRecOn generalizing weight with
  | ind n ih =>
    have ht := threshold_lt weight bias
    rw [writeNumber] at h
    split at h
    · next hlt =>
      rw [List.mem_singleton.mp h]
      exact mem_digits (by omega)
    · next hge =>
      rcases List.mem_cons.mp h with rfl | h
      · exact mem_digits (digit_lt ht)
      · exact ih _ (rest_lt (threshold_pos weight bias) (by omega)) h

/-! ### One number -/

/-- The reader once it has read a number on top of what it has. -/
def Reader.plus (r : Reader) (n : ℕ) : Option Reader := { r with delta := r.delta + n }.insert?

/-- Of the number being read only its value counts when it ends. -/
lemma Reader.plus_congr (r : Reader) {delta n m : ℕ} (h : delta + n = r.delta + m)
    (scale weight : ℕ) :
    { r with delta := delta, scale := scale, weight := weight }.plus n = r.plus m := by
  simp only [plus, insert?, h]

/-- **A written number is read as that number.** -/
theorem foldlM_writeNumber (r : Reader) (n : ℕ) :
    (writeNumber r.bias r.weight n).foldlM Reader.step? r = r.plus (n * r.scale) := by
  induction n using Nat.strongRecOn generalizing r with
  | ind n ih =>
    have hpos := threshold_pos r.weight r.bias
    have hlt := threshold_lt r.weight r.bias
    rw [writeNumber]
    split
    · next hn =>
      have hd : n < base := by omega
      simp [Reader.step?, digitValue?_digit n hd, hn, Reader.plus]
    · next hn =>
      have hd := digit_lt (n := n) hlt
      have hsum := digit_add_rest (n := n) (t := threshold r.weight r.bias) (by omega)
      have hrest := ih _ (rest_lt hpos (by omega))
      generalize ht : threshold r.weight r.bias = t at hpos hlt hn hd hsum hrest
      generalize (n - t) / (base - t) = q at hsum hrest
      generalize (n - t) % (base - t) = d at hd hsum
      have hstep : r.step? (digit (t + d)) = some { r with
          delta := r.delta + (t + d) * r.scale
          scale := r.scale * (base - t)
          weight := r.weight + base } := by
        have hmore : ¬t + d < t := by omega
        simp only [Reader.step?, digitValue?_digit _ hd, ht, Option.bind_eq_bind, Option.bind_some,
          if_neg hmore]
      have hvalue : (t + d) * r.scale + q * (r.scale * (base - t)) = n * r.scale := by
        rw [← hsum]; ring
      rw [List.foldlM_cons, hstep, Option.bind_eq_bind, Option.bind_some]
      exact (hrest _).trans (r.plus_congr (by rw [← hvalue, Nat.add_assoc]) _ _)

/-! ### One character more -/

/-- Where the writer and the reader stand when the characters `p` of a text have been passed on the
way through it with the code point `m`, and the characters `s` are to come. -/
structure Level (m : ℕ) (p s : List Char) (w : Writer) (r : Reader) : Prop where
  delta : r.delta = 0
  scale : r.scale = 1
  weight : r.weight = base
  bias : r.bias = w.bias
  first : r.first = w.first
  text : r.text = p.filter (·.toNat ≤ m) ++ s.filter (·.toNat < m)
  length : w.length = r.text.length
  codePoint : r.codePoint ≤ m
  place : r.place + w.delta =
    (m - r.codePoint) * (w.length + 1) + (p.filter (·.toNat ≤ m)).length

variable {m : ℕ} {p s : List Char} {c : Char} {w : Writer} {r : Reader}

lemma insertIdx_length (as bs : List Char) (b : Char) :
    (as ++ bs).insertIdx as.length b = as ++ b :: bs := by
  induction as with
  | nil => rfl
  | cons a as ih => simp [ih]

/-- The number that is written for a character inserts it at its place. -/
lemma Level.plus (h : Level m p (c :: s) w r) (hc : c.toNat = m) :
    ∃ r', r.plus w.delta = some r' ∧ Level m (p ++ [c]) s (Writer.pass m w c) r' := by
  obtain ⟨hdelta, -, -, hbias, hfirst, htext, hlength, hcp, hplace⟩ := h
  have hnot : ¬c.toNat < m := by omega
  have hs : (c :: s).filter (·.toNat < m) = s.filter (·.toNat < m) :=
    List.filter_cons_of_neg (by simpa using hnot)
  have hp : (p ++ [c]).filter (·.toNat ≤ m) = p.filter (·.toNat ≤ m) ++ [c] := by
    simp [List.filter_append, hc]
  rw [hs] at htext
  have hle : (p.filter (·.toNat ≤ m)).length ≤ w.length := by
    rw [hlength, htext, List.length_append]; omega
  -- the place that is reached lies in the round of the code point `m`
  have hdiv : (r.place + w.delta) / (w.length + 1) = m - r.codePoint := by
    rw [hplace, Nat.add_comm, Nat.add_mul_div_right _ _ (by omega),
      Nat.div_eq_of_lt (by omega), Nat.zero_add]
  have hmod : (r.place + w.delta) % (w.length + 1) = (p.filter (·.toNat ≤ m)).length := by
    rw [hplace, Nat.add_comm, Nat.add_mul_mod_self_right, Nat.mod_eq_of_lt (by omega)]
  have hm : r.codePoint + (m - r.codePoint) = m := by omega
  have hvalid : m.isValidChar := hc ▸ c.valid
  have hinsert : r.text.insertIdx (p.filter (·.toNat ≤ m)).length c =
      p.filter (·.toNat ≤ m) ++ c :: s.filter (·.toNat < m) := by
    rw [htext, insertIdx_length]
  have hofNat : Char.ofNat m = c := by rw [← hc, Char.ofNat_toNat]
  have hpass : Writer.pass m w c = ⟨0, adapt w.delta (w.length + 1) w.first, w.length + 1, false,
      w.out ++ writeNumber w.bias base w.delta⟩ := by
    rw [Writer.pass, if_neg hnot, if_pos hc]
  refine ⟨⟨(p.filter (·.toNat ≤ m)).length + 1, m, adapt w.delta (w.length + 1) w.first, false,
    p.filter (·.toNat ≤ m) ++ c :: s.filter (·.toNat < m), 0, 1, base⟩, ?_, ?_⟩
  · simp only [Reader.plus, Reader.insert?, hdelta, Nat.zero_add, ← hlength, hdiv, hmod, hm,
      if_pos hvalid, hofNat, hinsert, hfirst]
  · rw [hpass]
    constructor
    · rfl
    · rfl
    · rfl
    · rfl
    · rfl
    · rw [hp, List.append_assoc]; rfl
    · simp only [hlength, htext, List.length_append, List.length_cons]; omega
    · exact Nat.le_refl m
    · simp only [hp, Nat.sub_self, Nat.zero_mul, List.length_append, List.length_singleton]; omega

/-- A character that is there already is passed. -/
lemma Level.lt (h : Level m p (c :: s) w r) (hc : c.toNat < m) :
    Level m (p ++ [c]) s (Writer.pass m w c) r := by
  obtain ⟨hdelta, hscale, hweight, hbias, hfirst, htext, hlength, hcp, hplace⟩ := h
  have hp : (p ++ [c]).filter (·.toNat ≤ m) = p.filter (·.toNat ≤ m) ++ [c] := by
    simp [List.filter_append, Nat.le_of_lt hc]
  rw [Writer.pass, if_pos hc]
  refine ⟨hdelta, hscale, hweight, hbias, hfirst, ?_, hlength, hcp, ?_⟩
  · rw [htext, hp, List.filter_cons_of_pos (by simpa using hc)]; simp
  · simp only [hp, List.length_append, List.length_singleton]; omega

/-- A character that is inserted later does not count. -/
lemma Level.gt (h : Level m p (c :: s) w r) (hc : m < c.toNat) :
    Level m (p ++ [c]) s (Writer.pass m w c) r := by
  obtain ⟨hdelta, hscale, hweight, hbias, hfirst, htext, hlength, hcp, hplace⟩ := h
  have hp : (p ++ [c]).filter (·.toNat ≤ m) = p.filter (·.toNat ≤ m) := by
    simp [List.filter_append, hc]
  rw [Writer.pass, if_neg (by omega), if_neg (by omega)]
  refine ⟨hdelta, hscale, hweight, hbias, hfirst, ?_, hlength, hcp, ?_⟩
  · rw [htext, hp, List.filter_cons_of_neg (by simp; omega)]
  · rw [hp]; exact hplace

/-! ### The whole text -/

/-- A reader has read what a writer has written. -/
def Read (basic : List Char) (w : Writer) (r : Reader) : Prop :=
  w.out.foldlM Reader.step? ⟨0, firstCodePoint, firstBias, true, basic, 0, 1, base⟩ = some r

variable {basic : List Char}

/-- One character is passed, or inserted, on the way through the text. -/
lemma exists_level_pass (hr : Read basic w r) (h : Level m p (c :: s) w r) :
    ∃ r', Read basic (Writer.pass m w c) r' ∧ Level m (p ++ [c]) s (Writer.pass m w c) r' := by
  rcases Nat.lt_trichotomy c.toNat m with hc | hc | hc
  · exact ⟨r, by rwa [Read, Writer.pass, if_pos hc], h.lt hc⟩
  · obtain ⟨r', hplus, hlevel⟩ := h.plus hc
    refine ⟨r', ?_, hlevel⟩
    have hnumber := foldlM_writeNumber r w.delta
    rw [h.scale, h.bias, h.weight, Nat.mul_one, hplus] at hnumber
    rw [Read, Writer.pass, if_neg (by omega), if_pos hc, List.foldlM_append, hr]
    exact hnumber
  · exact ⟨r, by rwa [Read, Writer.pass, if_neg (by omega), if_neg (by omega)], h.gt hc⟩

/-- The way through the text is gone to its end, character by character. -/
lemma exists_level_foldl (hr : Read basic w r) (h : Level m p s w r) :
    ∃ r', Read basic (s.foldl (Writer.pass m) w) r' ∧
      Level m (p ++ s) [] (s.foldl (Writer.pass m) w) r' := by
  induction s generalizing p w r with
  | nil => exact ⟨r, hr, by rwa [List.append_nil]⟩
  | cons c s ih =>
    obtain ⟨r', hr', hlevel⟩ := exists_level_pass hr h
    obtain ⟨r'', hr'', hlevel'⟩ := ih hr' hlevel
    refine ⟨r'', hr'', ?_⟩
    rwa [List.append_assoc, List.singleton_append] at hlevel'

/-- Writer and reader stand alike at a later code point too if the text has none between the two. -/
lemma Level.skip {n : ℕ} (h : Level n [] s w r) (hnm : n ≤ m)
    (hno : ∀ c ∈ s, c.toNat < m → c.toNat < n) :
    Level m [] s { w with delta := w.delta + (m - n) * (w.length + 1) } r := by
  obtain ⟨hdelta, hscale, hweight, hbias, hfirst, htext, hlength, hcp, hplace⟩ := h
  refine ⟨hdelta, hscale, hweight, hbias, hfirst, ?_, hlength, by omega, ?_⟩
  · rw [htext]
    refine congrArg _ (List.filter_congr fun c hc => ?_)
    have := hno c hc
    simp only [decide_eq_decide]
    omega
  · have hsum : m - r.codePoint = (m - n) + (n - r.codePoint) := by omega
    simp only [List.filter_nil, List.length_nil, Nat.add_zero] at hplace ⊢
    rw [← Nat.add_assoc, hplace, hsum, Nat.add_mul, Nat.add_comm]

/-- Where the text ends with a code point, it begins with the next. -/
lemma Level.next (h : Level m s [] w r) :
    Level (m + 1) [] s { w with delta := w.delta + 1 } r := by
  obtain ⟨hdelta, hscale, hweight, hbias, hfirst, htext, hlength, hcp, hplace⟩ := h
  have hall : s.filter (·.toNat ≤ m) = s.filter (·.toNat < m + 1) :=
    List.filter_congr fun c _ => by simp only [decide_eq_decide]; omega
  rw [List.filter_nil, List.append_nil] at htext
  refine ⟨hdelta, hscale, hweight, hbias, hfirst, by rw [htext, hall]; rfl, hlength, by omega, ?_⟩
  have hsucc : m + 1 - r.codePoint = (m - r.codePoint) + 1 := by omega
  simp only [List.filter_nil, List.length_nil, Nat.add_zero]
  rw [← Nat.add_assoc, hplace, ← htext, ← hlength, hsucc, Nat.add_mul]
  omega

/-! ### All code points -/

/-- The code points of a text from some number on, rising. -/
def Rising (s : List Char) (n : ℕ) (ms : List ℕ) : Prop :=
  ms.Pairwise (· < ·) ∧ ∀ m, m ∈ ms ↔ n ≤ m ∧ ∃ c ∈ s, c.toNat = m

lemma mem_insertOnce {n m : ℕ} {ms : List ℕ} : m ∈ insertOnce n ms ↔ m = n ∨ m ∈ ms := by
  induction ms with
  | nil => simp [insertOnce]
  | cons k ks ih =>
    rw [insertOnce]
    split_ifs with hlt heq
    · exact List.mem_cons
    · rw [heq, List.mem_cons, ← or_assoc, or_self]
    · rw [List.mem_cons, ih, List.mem_cons, or_left_comm]

lemma pairwise_insertOnce (n : ℕ) {ms : List ℕ} (h : ms.Pairwise (· < ·)) :
    (insertOnce n ms).Pairwise (· < ·) := by
  induction ms with
  | nil => exact List.pairwise_singleton _ _
  | cons k ks ih =>
    obtain ⟨hk, hks⟩ := List.pairwise_cons.mp h
    rw [insertOnce]
    split_ifs with hlt heq
    · refine List.pairwise_cons.mpr ⟨List.forall_mem_cons.mpr ⟨hlt, fun m hm => ?_⟩, h⟩
      exact Nat.lt_trans hlt (hk m hm)
    · exact h
    · refine List.pairwise_cons.mpr ⟨fun m hm => ?_, ih hks⟩
      rcases mem_insertOnce.mp hm with rfl | hm
      · omega
      · exact hk m hm

/-- The code points beyond ASCII that are written. -/
lemma rising_others (s : List Char) :
    Rising s firstCodePoint
      (((s.map Char.toNat).filter (firstCodePoint ≤ ·)).foldr insertOnce []) := by
  have hfold (ns : List ℕ) : (ns.foldr insertOnce []).Pairwise (· < ·) ∧
      ∀ m, m ∈ ns.foldr insertOnce [] ↔ m ∈ ns := by
    induction ns with
    | nil => exact ⟨List.Pairwise.nil, fun _ => Iff.rfl⟩
    | cons n ns ih =>
      refine ⟨pairwise_insertOnce n ih.1, fun m => ?_⟩
      rw [List.foldr_cons, mem_insertOnce, ih.2, List.mem_cons]
  refine ⟨(hfold _).1, fun m => ?_⟩
  rw [(hfold _).2, List.mem_filter, List.mem_map, decide_eq_true_eq, and_comm]

lemma Rising.tail {n : ℕ} {ms : List ℕ} (h : Rising s n (m :: ms)) :
    n ≤ m ∧ (∀ c ∈ s, c.toNat < m → c.toNat < n) ∧ Rising s (m + 1) ms := by
  obtain ⟨hpair, hmem⟩ := h
  obtain ⟨hm, hms⟩ := List.pairwise_cons.mp hpair
  have hleast : ∀ c ∈ s, n ≤ c.toNat → m ≤ c.toNat := by
    intro c hc hn
    rcases List.mem_cons.mp ((hmem c.toNat).mpr ⟨hn, c, hc, rfl⟩) with heq | htail
    · omega
    · exact Nat.le_of_lt (hm _ htail)
  have hnm := ((hmem m).mp List.mem_cons_self).1
  refine ⟨hnm, fun c hc hlt => ?_, hms, fun k => ⟨fun hk => ?_, fun ⟨hk, c, hc, hck⟩ => ?_⟩⟩
  · have := hleast c hc
    omega
  · exact ⟨hm k hk, ((hmem k).mp (List.mem_cons_of_mem _ hk)).2⟩
  · have hmem' := (hmem k).mpr ⟨by omega, c, hc, hck⟩
    exact (List.mem_cons.mp hmem').resolve_left (by omega)

/-- What is written from some code point on is read as the whole text. -/
lemma exists_writeFrom {n : ℕ} {ms : List ℕ} (hms : Rising s n ms) (hr : Read basic w r)
    (h : Level n [] s w r) :
    ∃ r', Read basic (writeFrom s n w ms) r' ∧ r'.text = s ∧ r'.scale = 1 := by
  induction ms generalizing n w r with
  | nil =>
    refine ⟨r, hr, ?_, h.scale⟩
    rw [h.text, List.filter_nil, List.nil_append, List.filter_eq_self]
    intro c hc
    have hnone := mt (hms.2 c.toNat).mpr List.not_mem_nil
    simp only [not_and, not_exists] at hnone
    have : ¬n ≤ c.toNat := fun hn => hnone hn c hc rfl
    simp only [decide_eq_true_eq]
    omega
  | cons m ms ih =>
    obtain ⟨hnm, hno, hrest⟩ := hms.tail
    have hskip : Read basic { w with delta := w.delta + (m - n) * (w.length + 1) } r := hr
    obtain ⟨r', hr', hlevel⟩ := exists_level_foldl hskip (h.skip hnm hno)
    have hnext := hlevel.next
    exact ih hrest hr' hnext

/-! ### The two halves -/

lemma hyphen_not_mem_digits : '-' ∉ digits := by decide

lemma digits_pass (s : List Char) (m : ℕ) (hw : ∀ c ∈ w.out, c ∈ digits) :
    ∀ c ∈ (s.foldl (Writer.pass m) w).out, c ∈ digits := by
  induction s generalizing w with
  | nil => exact hw
  | cons d s ih =>
    refine ih ?_
    rw [Writer.pass]
    split_ifs
    · exact hw
    · exact fun c hc => (List.mem_append.mp hc).elim (hw c) mem_writeNumber
    · exact hw

lemma digits_writeFrom (s : List Char) (n : ℕ) (ms : List ℕ) (hw : ∀ c ∈ w.out, c ∈ digits) :
    ∀ c ∈ (writeFrom s n w ms).out, c ∈ digits := by
  induction ms generalizing n w with
  | nil => exact hw
  | cons m ms ih =>
    have hpass := digits_pass (w := { w with delta := w.delta + (m - n) * (w.length + 1) }) s m hw
    exact ih (m + 1) hpass

/-- The ASCII characters of a text. -/
def basicOf (s : List Char) : List Char := s.filter (·.toNat < firstCodePoint)

/-- The writer when it has written a text. -/
def written (s : List Char) : Writer :=
  writeFrom s firstCodePoint ⟨0, firstBias, (basicOf s).length, true, []⟩
    (((s.map Char.toNat).filter (firstCodePoint ≤ ·)).foldr insertOnce [])

lemma encode_eq (s : List Char) :
    encode s = basicOf s ++ (if (basicOf s).isEmpty then [] else ['-']) ++ (written s).out := rfl

lemma digits_written (s : List Char) : ∀ c ∈ (written s).out, c ∈ digits :=
  digits_writeFrom s _ _ fun _ hc => absurd hc List.not_mem_nil

lemma exists_written (s : List Char) :
    ∃ r, Read (basicOf s) (written s) r ∧ r.text = s ∧ r.scale = 1 := by
  refine exists_writeFrom (rising_others s) rfl
    ⟨rfl, rfl, rfl, rfl, rfl, ?_, rfl, Nat.le_refl _, ?_⟩
  · rfl
  · rw [Nat.sub_self, Nat.zero_mul]; rfl

lemma dropWhile_append_hyphen {out : List Char} (h : '-' ∉ out) (rest : List Char) :
    (out ++ '-' :: rest).dropWhile (· ≠ '-') = '-' :: rest ∧
      (out ++ '-' :: rest).takeWhile (· ≠ '-') = out := by
  have hout : ∀ c ∈ out, (decide (c ≠ '-')) = true := fun c hc =>
    decide_eq_true fun heq => h (heq ▸ hc)
  rw [List.dropWhile_append_of_pos hout, List.takeWhile_append_of_pos hout]
  simp

lemma cutLastHyphen_append {front out : List Char} (hf : front ≠ []) (h : '-' ∉ out) :
    cutLastHyphen (front ++ ['-'] ++ out) = (front, out) := by
  have hrev : (front ++ ['-'] ++ out).reverse = out.reverse ++ '-' :: front.reverse := by simp
  have hout : '-' ∉ out.reverse := fun hc => h (List.mem_reverse.mp hc)
  obtain ⟨hdrop, htake⟩ := dropWhile_append_hyphen hout front.reverse
  obtain ⟨c, cs, hc⟩ := List.exists_cons_of_ne_nil (mt List.reverse_eq_nil_iff.mp hf)
  simp only [cutLastHyphen, hrev, hdrop, htake, List.drop_one, List.tail_cons]
  rw [hc]
  simp [← hc]

lemma cutLastHyphen_of_not_mem {out : List Char} (h : '-' ∉ out) :
    cutLastHyphen out = ([], out) := by
  have hdrop : out.reverse.dropWhile (· ≠ '-') = [] := List.dropWhile_eq_nil_iff.mpr
    fun c hc => decide_eq_true fun heq => h (heq ▸ List.mem_reverse.mp hc)
  simp only [cutLastHyphen, hdrop, List.drop_nil]

lemma cutLastHyphen_encode (s : List Char) :
    cutLastHyphen (encode s) = (basicOf s, (written s).out) := by
  have hno : '-' ∉ (written s).out := fun h => hyphen_not_mem_digits (digits_written s _ h)
  rw [encode_eq]
  rcases hb : basicOf s with _ | ⟨c, cs⟩
  · exact cutLastHyphen_of_not_mem hno
  · exact cutLastHyphen_append (List.cons_ne_nil c cs) hno

/-- **Punycode is read back as the text that it was written for.** -/
theorem decode?_encode (s : List Char) : decode? (encode s) = some s := by
  obtain ⟨r, hr, htext, hscale⟩ := exists_written s
  have hbasic : (basicOf s).all (·.toNat < firstCodePoint) = true :=
    List.all_eq_true.mpr fun c hc => (List.mem_filter.mp hc).2
  rw [Read] at hr
  simp only [decode?, cutLastHyphen_encode, hbasic, guard, if_true, hr, Option.bind_eq_bind,
    Option.bind_some, Option.pure_def, hscale, htext]

/-- What a text is encoded as holds ASCII characters of the text, digits and hyphens. -/
lemma mem_encode {s : List Char} {c : Char} (h : c ∈ encode s) :
    (c ∈ s ∧ c.toNat < firstCodePoint) ∨ c ∈ '-' :: digits := by
  rw [encode_eq, List.mem_append, List.mem_append] at h
  rcases h with (h | h) | h
  · exact .inl (by simpa [basicOf] using h)
  · split at h
    · exact absurd h List.not_mem_nil
    · exact .inr (List.mem_cons.mpr (.inl (List.mem_singleton.mp h)))
  · exact .inr (List.mem_cons_of_mem _ (digits_written s c h))

/-! ### What is read is in ASCII -/

lemma toNat_lt_of_digitValue? {d : ℕ} (h : digitValue? c = some d) : c.toNat < firstCodePoint := by
  have hval : c.toNat = c.val.toNat := rfl
  rw [digitValue?] at h
  split at h
  · next hc =>
    have hle : c.val.toNat ≤ 0x7A := UInt32.le_iff_toNat_le.mp hc.2
    exact Nat.lt_of_le_of_lt (hval ▸ hle) (by decide)
  · split at h
    · next hc =>
      have hle : c.val.toNat ≤ 0x5A := UInt32.le_iff_toNat_le.mp hc.2
      exact Nat.lt_of_le_of_lt (hval ▸ hle) (by decide)
    · split at h
      · next hc =>
        simp only [Char.isDigit, Bool.and_eq_true, decide_eq_true_eq] at hc
        have hle : c.val.toNat ≤ 0x39 := UInt32.le_iff_toNat_le.mp hc.2
        exact Nat.lt_of_le_of_lt (hval ▸ hle) (by decide)
      · cases h

lemma toNat_lt_of_foldlM {out : List Char} {r' : Reader} (h : out.foldlM Reader.step? r = some r') :
    ∀ c ∈ out, c.toNat < firstCodePoint := by
  induction out generalizing r with
  | nil => exact fun c hc => absurd hc List.not_mem_nil
  | cons c out ih =>
    rw [List.foldlM_cons] at h
    obtain ⟨r₁, hstep, hrest⟩ := Option.bind_eq_some_iff.mp h
    obtain ⟨d, hd, -⟩ := Option.bind_eq_some_iff.mp hstep
    exact List.forall_mem_cons.mpr ⟨toNat_lt_of_digitValue? hd, ih hrest⟩

lemma mem_of_cutLastHyphen {cs front back : List Char} (h : cutLastHyphen cs = (front, back))
    (hc : c ∈ cs) : c ∈ front ∨ c = '-' ∨ c ∈ back := by
  simp only [cutLastHyphen] at h
  split at h
  · cases h
    exact .inr (.inr hc)
  · cases h
    have hsplit := List.takeWhile_append_dropWhile (p := (· ≠ '-')) (l := cs.reverse)
    rw [← List.mem_reverse, ← hsplit, List.mem_append] at hc
    rcases hc with hc | hc
    · exact .inr (.inr (List.mem_reverse.mpr hc))
    · rcases hdrop : cs.reverse.dropWhile (· ≠ '-') with _ | ⟨d, ds⟩
      · rw [hdrop] at hc
        exact absurd hc List.not_mem_nil
      · have hhead := List.head?_dropWhile_not (· ≠ '-') cs.reverse
        rw [hdrop] at hc hhead
        rw [List.drop_one, List.tail_cons]
        rcases List.mem_cons.mp hc with rfl | hc
        · exact .inr (.inl (by simpa using hhead))
        · exact .inl (List.mem_reverse.mpr hc)

lemma toNat_lt_of_decode? {cs : List Char} (h : decode? cs = some s) :
    ∀ c ∈ cs, c.toNat < firstCodePoint := by
  rcases hcut : cutLastHyphen cs with ⟨front, back⟩
  simp only [decode?, hcut, guard, Option.bind_eq_bind, Option.bind_eq_some_iff] at h
  obtain ⟨_, hfront, r', hread, -⟩ := h
  have hall : front.all (·.toNat < firstCodePoint) = true := by
    by_contra hnot
    rw [if_neg hnot] at hfront
    cases hfront
  intro c hc
  rcases mem_of_cutLastHyphen hcut hc with hc | rfl | hc
  · exact of_decide_eq_true (List.all_eq_true.mp hall c hc)
  · decide
  · exact toNat_lt_of_foldlM hread c hc

end TeamSync.Url.Punycode
