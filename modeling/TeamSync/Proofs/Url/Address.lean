import Mathlib.Algebra.Group.Nat.Defs
import Mathlib.Data.Nat.Notation
import Mathlib.Tactic.Lemma
import Mathlib.Tactic.SplitIfs
import TeamSync.Proofs.Json.Printed
import TeamSync.Proofs.Url.Segments
import TeamSync.Url.Host

/-!
Addresses are read back. The one written form of an IPv4 or IPv6 address is read as that address, of
which it is the written form again.
-/

namespace TeamSync.Url

open Text

/-! ### Numerals of a base -/

lemma hexValue?_digitChar : ∀ d < 16, hexValue? (Nat.digitChar d) = some d := by decide

lemma inBase?_concat {base n d : ℕ} {cs : List Char} {c : Char} (hcs : inBase? base cs = some n)
    (hc : hexValue? c = some d) (hd : d < base) :
    inBase? base (cs ++ [c]) = some (n * base + d) := by
  rw [inBase?] at hcs ⊢
  rw [List.foldlM_append, hcs]
  simp [hc, hd]

/-- The digits of a number are read as that number. -/
lemma inBase?_toDigits {base : ℕ} (hb : 1 < base) (hb' : base ≤ 16) (n : ℕ) :
    inBase? base (Nat.toDigits base n) = some n := by
  induction n using Nat.strongRecOn with
  | ind n ih =>
    rcases Nat.lt_or_ge n base with hlt | hge
    · rw [Nat.toDigits_of_lt_base hlt, ← List.nil_append [n.digitChar],
        inBase?_concat (n := 0) rfl (hexValue?_digitChar n (by omega)) hlt, Nat.zero_mul,
        Nat.zero_add]
    · have hmod : n % base < base := Nat.mod_lt _ (by omega)
      rw [Nat.toDigits_of_base_le hb hge,
        inBase?_concat (ih (n / base) (Nat.div_lt_self (by omega) hb))
          (hexValue?_digitChar _ (by omega)) hmod, Nat.div_add_mod']

lemma mem_toDigits {base n : ℕ} {c : Char} (hb : 1 < base) (h : c ∈ Nat.toDigits base n) :
    ∃ d < base, c = Nat.digitChar d := by
  induction n using Nat.strongRecOn with
  | ind n ih =>
    rcases Nat.lt_or_ge n base with hlt | hge
    · rw [Nat.toDigits_of_lt_base hlt] at h
      exact ⟨n, hlt, List.mem_singleton.mp h⟩
    · rw [Nat.toDigits_of_base_le hb hge, List.mem_append] at h
      rcases h with h | h
      · exact ih (n / base) (Nat.div_lt_self (by omega) hb) h
      · exact ⟨n % base, Nat.mod_lt _ (by omega), List.mem_singleton.mp h⟩

lemma ipv4Number?_ofNat (n : ℕ) : ipv4Number? (Numeral.ofNat n) = some n := by
  have hread : inBase? 10 (Numeral.ofNat n) = some n := inBase?_toDigits (by decide) (by decide) n
  rcases Json.ofNat_cases n with ⟨rfl, h⟩ | ⟨c, cs, h, hc, -, -⟩
  · rw [h]; rfl
  · rw [h] at hread ⊢
    rw [ipv4Number?]
    · exact hread
    all_goals simp_all

/-! ### IPv4 -/

/-- The four bytes of an address. -/
def addressBytes (a : ℕ) : List ℕ :=
  [a / 0x1000000, a / 0x10000 % 256, a / 0x100 % 256, a % 256]

/-- An IPv4 address in its one written form. -/
def ipv4Text (a : ℕ) : List Char := joined '.' ((addressBytes a).map Numeral.ofNat)

lemma ipv4Address?_lt {ns : List ℕ} {a : ℕ} (h : ipv4Address? ns = some a) : a < 0x100000000 := by
  rw [ipv4Address?] at h
  split at h
  · cases h
  · next last hlast =>
    simp only [Option.ite_none_right_eq_some, List.all_eq_true, decide_eq_true_eq,
      Option.some.injEq] at h
    obtain ⟨⟨hlt, hfront, hlen⟩, ha⟩ := h
    have hlen' : ns.dropLast.length ≤ 3 := by rw [List.length_dropLast]; omega
    match hns : ns.dropLast, hlen' with
    | [], _ => simp [hns] at hlt ha; omega
    | [x], _ => simp [hns] at hlt hfront ha; omega
    | [x, y], _ => simp [hns] at hlt hfront ha; omega
    | [x, y, z], _ => simp [hns] at hlt hfront ha; omega

lemma ipv4Address?_addressBytes {a : ℕ} (h : a < 0x100000000) :
    ipv4Address? (addressBytes a) = some a := by
  have hall : a / 0x1000000 < 256 ∧ a / 0x10000 % 256 < 256 ∧ a / 0x100 % 256 < 256 ∧
    a % 256 < 256 := by omega
  simp [ipv4Address?, addressBytes, hall]
  omega

lemma nameParts_ipv4Text (a : ℕ) : nameParts (ipv4Text a) = (addressBytes a).map Numeral.ofNat := by
  have hsplit : splitAt (· = '.') (ipv4Text a) = (addressBytes a).map Numeral.ofNat := by
    refine splitAt_joined (by simp [addressBytes]) (by decide) fun s hs c hc => ?_
    obtain ⟨n, -, rfl⟩ := List.mem_map.mp hs
    have hd := Json.isDigit_of_mem_ofNat hc
    rw [decide_eq_false_iff_not]
    rintro rfl
    exact absurd hd (by decide)
  have hlast : ((addressBytes a).map Numeral.ofNat).getLast? ≠ some [] := by
    have hne : Numeral.ofNat (a % 256) ≠ [] := Nat.toDigits_ne_nil
    simpa [addressBytes] using hne
  simp only [nameParts, hsplit, hlast, and_false, if_false]

/-- **The written form of an IPv4 address is read as it.** -/
theorem parseIpv4_ipv4Text {a : ℕ} (h : a < 0x100000000) :
    parseIpv4 (ipv4Text a) = .ok (ipv4Text a) := by
  have hread : ((addressBytes a).map Numeral.ofNat).mapM ipv4Number? = some (addressBytes a) := by
    simp [addressBytes, ipv4Number?_ofNat]
  rw [parseIpv4, nameParts_ipv4Text, hread]
  simp only [ipv4Address?_addressBytes h]
  rfl

lemma parseIpv4_eq_ok {cs t : List Char} (h : parseIpv4 cs = .ok t) :
    ∃ a < 0x100000000, t = ipv4Text a := by
  rw [parseIpv4] at h
  split at h
  · cases h
  · next ns _ =>
    split at h
    · cases h
    · next a ha =>
      cases h
      exact ⟨a, ipv4Address?_lt ha, rfl⟩

/-- The text of an IPv4 address is a name whose last part is a number. -/
lemma endsInNumber_ipv4Text (a : ℕ) : endsInNumber (ipv4Text a) = true := by
  have hdigits : (Numeral.ofNat (a % 256)).all Char.isDigit = true :=
    List.all_eq_true.mpr fun c hc => Json.isDigit_of_mem_ofNat hc
  rw [endsInNumber, nameParts_ipv4Text]
  rcases hn : Numeral.ofNat (a % 256) with _ | ⟨c, cs⟩
  · exact absurd hn Nat.toDigits_ne_nil
  · rw [hn] at hdigits
    simp [addressBytes, hn, hdigits]

/-- The characters of an IPv4 address. -/
def ipv4Chars : List Char := '.' :: (List.range 10).map Nat.digitChar

lemma mem_ipv4Text {a : ℕ} {c : Char} (h : c ∈ ipv4Text a) : c ∈ ipv4Chars := by
  rcases mem_joined h with rfl | ⟨s, hs, hc⟩
  · exact List.mem_cons_self
  · obtain ⟨n, -, rfl⟩ := List.mem_map.mp hs
    obtain ⟨d, hd, rfl⟩ := mem_toDigits (by decide) hc
    exact List.mem_cons_of_mem _ (List.mem_map_of_mem (List.mem_range.mpr hd))

lemma ipv4Text_ne_nil (a : ℕ) : ipv4Text a ≠ [] := by
  obtain ⟨c, cs, hc⟩ := List.exists_cons_of_ne_nil
    (Nat.toDigits_ne_nil (n := a / 0x1000000) (b := 10))
  rw [ipv4Text, addressBytes, List.map_cons, joined_cons, Numeral.ofNat, hc]
  exact List.cons_ne_nil _ _

/-! ### The pieces of an IPv6 address -/

/-- The pieces of an address: eight numbers of sixteen bits. -/
def IsAddress (ps : List ℕ) : Prop := ps.length = 8 ∧ ∀ p ∈ ps, p < 0x10000

lemma inBase?_lt {base n : ℕ} {cs : List Char} (h : inBase? base cs = some n) :
    n < base ^ cs.length := by
  induction cs using List.reverseRecOn generalizing n with
  | nil => cases h; exact Nat.one_pos
  | append_singleton cs c ih =>
    rw [inBase?, List.foldlM_append] at h
    obtain ⟨m, hm, hc⟩ := Option.bind_eq_some_iff.mp h
    have hlt := ih hm
    rw [List.foldlM_cons] at hc
    obtain ⟨d, hd, hn⟩ : ∃ d, d < base ∧ n = m * base + d := by
      cases hv : hexValue? c with
      | none => simp [hv] at hc
      | some d =>
        simp [hv] at hc
        exact ⟨d, hc.1, hc.2.symm⟩
    rw [List.length_append, List.length_singleton, Nat.pow_succ, hn]
    calc m * base + d < (m + 1) * base := by rw [Nat.add_mul]; omega
      _ ≤ base ^ cs.length * base := Nat.mul_le_mul_right _ hlt

lemma piece?_lt {cs : List Char} {p : ℕ} (h : piece? cs = some p) : p < 0x10000 := by
  rw [piece?] at h
  split at h
  · next hlen =>
    calc p < 16 ^ cs.length := inBase?_lt h
      _ ≤ 16 ^ 4 := Nat.pow_le_pow_right (by decide) hlen.2
  · cases h

lemma embeddedByte?_lt {cs : List Char} {p : ℕ} (h : embeddedByte? cs = some p) : p < 256 := by
  rw [embeddedByte?.eq_def] at h
  split at h
  · cases h; decide
  · cases h
  · split at h
    · obtain ⟨-, hp⟩ := Option.filter_eq_some_iff.mp h
      simpa using hp
    · cases h

lemma embedded?_lt {cs : List Char} {ps : List ℕ} (h : embedded? cs = some ps) :
    ∀ p ∈ ps, p < 0x10000 := by
  rw [embedded?] at h
  split at h
  · next a b c d hbytes =>
    cases h
    have hall : ∀ x ∈ [a, b, c, d], x < 256 := fun x hx =>
      have ⟨_, _, hs⟩ := exists_of_mapM hbytes x hx
      embeddedByte?_lt hs
    simp only [List.forall_mem_cons, List.not_mem_nil, false_implies, implies_true,
      and_true] at hall ⊢
    omega
  · cases h

lemma pieces?_lt {ss : List (List Char)} {ps : List ℕ} (h : pieces? ss = some ps) :
    ∀ p ∈ ps, p < 0x10000 := by
  induction ss generalizing ps with
  | nil => cases h; exact fun _ hp => absurd hp List.not_mem_nil
  | cons cs ss ih =>
    cases ss with
    | nil =>
      rw [pieces?] at h
      split at h
      · exact embedded?_lt h
      · obtain ⟨p, hp, rfl⟩ := Option.map_eq_some_iff.mp h
        exact List.forall_mem_singleton.mpr (piece?_lt hp)
    | cons s ss =>
      rw [pieces?] at h
      · obtain ⟨p, hp, h⟩ := Option.bind_eq_some_iff.mp h
        obtain ⟨ps, hps, h⟩ := Option.bind_eq_some_iff.mp h
        cases h
        exact List.forall_mem_cons.mpr ⟨piece?_lt hp, ih hps⟩
      · exact List.cons_ne_nil _ _

lemma sidePieces?_lt {cs : List Char} {ps : List ℕ} (h : sidePieces? cs = some ps) :
    ∀ p ∈ ps, p < 0x10000 := by
  rw [sidePieces?] at h
  split at h
  · cases h; exact fun _ hp => absurd hp List.not_mem_nil
  · exact pieces?_lt h

lemma isAddress_of_ipv6Pieces? {cs : List Char} {ps : List ℕ} (h : ipv6Pieces? cs = some ps) :
    IsAddress ps := by
  rw [ipv6Pieces?] at h
  split at h
  · obtain ⟨hps, hlen⟩ := Option.filter_eq_some_iff.mp h
    exact ⟨by simpa using hlen, pieces?_lt hps⟩
  · next a b _ =>
    simp only [Option.bind_eq_bind, Option.ite_none_left_eq_some, Option.bind_eq_some_iff,
      Option.ite_none_right_eq_some, Option.some.injEq] at h
    obtain ⟨-, l, hl, r, hr, hlen, rfl⟩ := h
    refine ⟨by simp; omega, fun p hp => ?_⟩
    simp only [List.mem_append, List.mem_replicate] at hp
    rcases hp with (hp | ⟨-, rfl⟩) | hp
    · exact sidePieces?_lt hl p hp
    · decide
    · exact sidePieces?_lt hr p hp

/-! ### Pieces as they are written -/

/-- The characters of a piece. -/
def pieceChars : List Char := (List.range 16).map Nat.digitChar

lemma mem_pieceChars {n : ℕ} {c : Char} (h : c ∈ Nat.toDigits 16 n) : c ∈ pieceChars := by
  obtain ⟨d, hd, rfl⟩ := mem_toDigits (by decide) h
  exact List.mem_map_of_mem (List.mem_range.mpr hd)

lemma ne_colon_of_mem {n : ℕ} {c : Char} (h : c ∈ Nat.toDigits 16 n) : c ≠ ':' :=
  (by decide : ∀ c ∈ pieceChars, c ≠ ':') c (mem_pieceChars h)

lemma piecesText_cons (p : ℕ) (ps : List ℕ) :
    piecesText (p :: ps) = Nat.toDigits 16 p ++ (ps.map (Nat.toDigits 16)).flatMap (':' :: ·) :=
  joined_cons ':' _ _

lemma mem_piecesText {ps : List ℕ} {c : Char} (h : c ∈ piecesText ps) :
    c = ':' ∨ c ∈ pieceChars := by
  rcases mem_joined h with rfl | ⟨s, hs, hc⟩
  · exact .inl rfl
  · obtain ⟨n, -, rfl⟩ := List.mem_map.mp hs
    exact .inr (mem_pieceChars hc)

lemma piece?_toDigits {n : ℕ} (h : n < 0x10000) : piece? (Nat.toDigits 16 n) = some n := by
  have hlen : (Nat.toDigits 16 n).length ≤ 4 :=
    (Nat.length_toDigits_le_iff (by decide) (by decide)).mpr h
  rw [piece?, if_pos ⟨Nat.toDigits_ne_nil, hlen⟩, inBase?_toDigits (by decide) (by decide)]

lemma pieces?_map {ps : List ℕ} (h : ∀ p ∈ ps, p < 0x10000) :
    pieces? (ps.map (Nat.toDigits 16)) = some ps := by
  induction ps with
  | nil => rfl
  | cons p ps ih =>
    have hp := piece?_toDigits (h p List.mem_cons_self)
    have hps := ih fun q hq => h q (List.mem_cons_of_mem _ hq)
    cases ps with
    | nil =>
      have hdot : (Nat.toDigits 16 p).elem '.' = false := by
        rw [Bool.eq_false_iff]
        intro hmem
        exact absurd (mem_pieceChars (List.elem_iff.mp hmem)) (by decide)
      simp only [List.map_cons, List.map_nil, pieces?, hdot, hp]
      rfl
    | cons q qs =>
      rw [List.map_cons, List.map_cons, pieces?, hp]
      · rw [List.map_cons] at hps
        simp only [hps]
        rfl
      · exact List.cons_ne_nil _ _

lemma splitAt_piecesText {ps : List ℕ} (hne : ps ≠ []) :
    splitAt (· = ':') (piecesText ps) = ps.map (Nat.toDigits 16) := by
  refine splitAt_joined (by simpa using hne) (by decide) fun s hs c hc => ?_
  obtain ⟨n, -, rfl⟩ := List.mem_map.mp hs
  exact decide_eq_false (ne_colon_of_mem hc)

lemma piecesText_ne_nil {ps : List ℕ} (hne : ps ≠ []) : piecesText ps ≠ [] := by
  intro h
  obtain ⟨p, ps, rfl⟩ := List.exists_cons_of_ne_nil hne
  rw [piecesText_cons] at h
  exact Nat.toDigits_ne_nil (List.append_eq_nil_iff.mp h).1

lemma sidePieces?_piecesText {ps : List ℕ} (h : ∀ p ∈ ps, p < 0x10000) :
    sidePieces? (piecesText ps) = some ps := by
  rcases eq_or_ne ps [] with rfl | hne
  · rfl
  · have hempty : (piecesText ps).isEmpty = false := by simpa using piecesText_ne_nil hne
    simp only [sidePieces?, hempty, splitAt_piecesText hne, pieces?_map h, Bool.false_eq_true,
      if_false]

/-! ### The compressed part -/

/-- What is cut off behind a text. -/
def behind (s : List Char) : Option (List Char × List Char) → Option (List Char × List Char) :=
  Option.map fun (a, b) => (s ++ a, b)

lemma cutDoubleColon_append {s cs : List Char} (h : ∀ c ∈ s, c ≠ ':') :
    cutDoubleColon (s ++ cs) = behind s (cutDoubleColon cs) := by
  induction s with
  | nil => simp [behind]
  | cons c s ih =>
    have hc := h c List.mem_cons_self
    rw [List.cons_append, cutDoubleColon, ih fun d hd => h d (List.mem_cons_of_mem _ hd)]
    · cases cutDoubleColon cs <;> simp [behind]
    · rintro - rfl
      exact absurd rfl hc

/-- One colon in front of a piece cuts nothing. -/
lemma cutDoubleColon_colon {s cs : List Char} (hs : s ≠ []) (h : ∀ c ∈ s, c ≠ ':') :
    cutDoubleColon (':' :: s ++ cs) = behind (':' :: s) (cutDoubleColon cs) := by
  have hcut : cutDoubleColon (s ++ cs) = behind s (cutDoubleColon cs) := cutDoubleColon_append h
  obtain ⟨d, s, rfl⟩ := List.exists_cons_of_ne_nil hs
  have hd := h d List.mem_cons_self
  rw [List.cons_append, List.cons_append, cutDoubleColon, ← List.cons_append, hcut]
  · cases cutDoubleColon cs <;> simp [behind]
  · rintro _ - heq
    cases heq
    exact hd rfl

lemma cutDoubleColon_piecesText (ps : List ℕ) (cs : List Char) :
    cutDoubleColon (piecesText ps ++ cs) = behind (piecesText ps) (cutDoubleColon cs) := by
  have hflat (qs : List ℕ) :
      cutDoubleColon ((qs.map (Nat.toDigits 16)).flatMap (':' :: ·) ++ cs) =
        behind ((qs.map (Nat.toDigits 16)).flatMap (':' :: ·)) (cutDoubleColon cs) := by
    induction qs with
    | nil => simp [behind]
    | cons q qs ih =>
      rw [List.map_cons, List.flatMap_cons, List.append_assoc,
        cutDoubleColon_colon Nat.toDigits_ne_nil fun _ => ne_colon_of_mem, ih]
      cases cutDoubleColon cs <;> simp [behind]
  cases ps with
  | nil => simp [behind, piecesText]
  | cons p ps =>
    rw [piecesText_cons, List.append_assoc, cutDoubleColon_append fun _ => ne_colon_of_mem, hflat]
    cases cutDoubleColon cs <;> simp [behind]

/-- The compressed part is a run of at least two zeros. -/
lemma longestZeros_eq_some {ps : List ℕ} {i n : ℕ} (h : longestZeros ps = some (i, n)) :
    1 < n ∧ n = zeroRun (ps.drop i) := by
  have hbest : ∀ r ∈ longestZeros ps, 1 < r.2 ∧ r.2 = zeroRun (ps.drop r.1) := by
    rw [longestZeros]
    refine List.foldlRecOn (motive := fun best : Option (ℕ × ℕ) =>
      ∀ r ∈ best, 1 < r.2 ∧ r.2 = zeroRun (ps.drop r.1)) _ _ (fun r hr => by cases hr)
      fun best hbest r hr => ?_
    obtain ⟨j, -, rfl⟩ := List.mem_map.mp hr
    split_ifs with hlt
    · rintro s ⟨⟩
      exact ⟨hlt.1, rfl⟩
    · exact hbest
  exact hbest _ h

/-- The pieces with the compressed part written out. -/
lemma take_zeros_drop {ps : List ℕ} {i n : ℕ} (h : n = zeroRun (ps.drop i)) :
    ps.take i ++ List.replicate n 0 ++ ps.drop (i + n) = ps := by
  have hzeros : (ps.drop i).takeWhile (· = 0) = List.replicate n 0 := by
    rw [h, zeroRun]
    exact List.eq_replicate_of_mem fun x hx => by simpa using List.mem_takeWhile_imp hx
  have hrest : (ps.drop i).dropWhile (· = 0) = ps.drop (i + n) := by
    have hsplit := List.takeWhile_append_dropWhile (p := (· = 0)) (l := ps.drop i)
    rw [← List.drop_drop]
    conv_rhs => rw [← hsplit, hzeros]
    exact (List.drop_left' List.length_replicate).symm
  rw [← hzeros, ← hrest, List.append_assoc, List.takeWhile_append_dropWhile, List.take_append_drop]

/-- **The written form of an IPv6 address is read as its pieces.** -/
theorem ipv6Pieces?_ipv6Text {ps : List ℕ} (h : IsAddress ps) :
    ipv6Pieces? (ipv6Text ps) = some ps := by
  obtain ⟨hlen, hlt⟩ := h
  rw [ipv6Text]
  split
  · have hne : ps ≠ [] := by rintro rfl; exact absurd hlen (by decide)
    have hcut : cutDoubleColon (piecesText ps) = none := by
      simpa [behind, cutDoubleColon] using cutDoubleColon_piecesText ps []
    simp [ipv6Pieces?, hcut, splitAt_piecesText hne, pieces?_map hlt, hlen]
  · next i n hzeros =>
    obtain ⟨hn, hrun⟩ := longestZeros_eq_some hzeros
    have hps := take_zeros_drop hrun
    have hcut : cutDoubleColon (piecesText (ps.take i) ++ [':', ':'] ++
        piecesText (ps.drop (i + n))) =
        some (piecesText (ps.take i), piecesText (ps.drop (i + n))) := by
      rw [List.append_assoc, cutDoubleColon_piecesText]
      simp [behind, cutDoubleColon]
    have hdot : (piecesText (ps.take i)).elem '.' = false := by
      rw [Bool.eq_false_iff]
      intro hmem
      rcases mem_piecesText (List.elem_iff.mp hmem) with heq | hmem
      · exact absurd heq (by decide)
      · exact absurd hmem (by decide)
    have hl : sidePieces? (piecesText (ps.take i)) = some (ps.take i) :=
      sidePieces?_piecesText fun p hp => hlt p (List.mem_of_mem_take hp)
    have hr : sidePieces? (piecesText (ps.drop (i + n))) = some (ps.drop (i + n)) :=
      sidePieces?_piecesText fun p hp => hlt p (List.mem_of_mem_drop hp)
    have hsum := congrArg List.length hps
    simp only [List.length_append, List.length_replicate] at hsum
    have hzero : 8 - (ps.take i).length - (ps.drop (i + n)).length = n := by omega
    have hlt8 : (ps.take i).length + (ps.drop (i + n)).length < 8 := by omega
    rw [ipv6Pieces?, hcut]
    simp only [hdot, hl, hr, Bool.false_eq_true, if_false, Option.bind_eq_bind, Option.bind_some,
      if_pos hlt8, hzero, hps]

/-- The text of an IPv6 address is the written form of itself. -/
theorem parseIpv6_ipv6Text {ps : List ℕ} (h : IsAddress ps) :
    parseIpv6 (ipv6Text ps) = .ok ('[' :: ipv6Text ps ++ [']']) := by
  rw [parseIpv6, ipv6Pieces?_ipv6Text h]

lemma parseIpv6_eq_ok {cs t : List Char} (h : parseIpv6 cs = .ok t) :
    ∃ ps, IsAddress ps ∧ t = '[' :: ipv6Text ps ++ [']'] := by
  rw [parseIpv6] at h
  split at h
  · next ps hps =>
    cases h
    exact ⟨ps, isAddress_of_ipv6Pieces? hps, rfl⟩
  · cases h

lemma mem_ipv6Text {ps : List ℕ} {c : Char} (h : c ∈ ipv6Text ps) : c = ':' ∨ c ∈ pieceChars := by
  rw [ipv6Text] at h
  split at h
  · exact mem_piecesText h
  · simp only [List.mem_append] at h
    rcases h with (h | h) | h
    · exact mem_piecesText h
    · simp only [List.mem_cons, List.not_mem_nil, or_false, or_self] at h
      exact .inl h
    · exact mem_piecesText h

end TeamSync.Url
