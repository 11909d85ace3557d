import TeamSync.Proofs.Url.Address
import TeamSync.Proofs.Url.DomainName
import TeamSync.Proofs.Url.Encoded
import TeamSync.Proofs.Utf8

/-!
Hosts are read back. A written host stands apart from user name, port and path, and is read as
itself.
-/

namespace TeamSync.Url

open Text

/-! ### Bytes of a name -/

lemma percentDecode_of_not_mem {cs : List Char} (h : '%' ∉ cs) :
    percentDecode cs = Utf8.encode cs := by
  induction cs with
  | nil => rfl
  | cons c cs ih =>
    obtain ⟨hc, hcs⟩ := List.ne_and_not_mem_of_not_mem_cons h
    rw [percentDecode_cons (Ne.symm hc), ih hcs]
    rfl

/-! ### The written host -/

/-- A character that ends no part of a written authority; a colon may. -/
abbrev IsInner (c : Char) : Prop :=
  0x20 < c.toNat ∧ c.toNat < 0x7F ∧ c ∉ ['/', '\\', '?', '#', '|', '@']

/-- What a written host looks like: no character that ends it, and no colon or bracket unless it
stands in brackets. -/
structure IsHost (host : List Char) : Prop where
  inner : ∀ c ∈ host, IsInner c
  colons : (∃ inner, host = '[' :: inner ++ [']'] ∧ '[' ∉ inner ∧ ']' ∉ inner) ∨
    (':' ∉ host ∧ '[' ∉ host)

variable {cs host : List Char} {c : Char}

/-- A host of characters that may stand in one. -/
lemma isHost_of_forall (h : ∀ c ∈ host, 0x20 < c.toNat ∧ c.toNat < 0x7F ∧
    c ∉ ['/', '\\', '?', '#', '|', '@', ':', '[']) : IsHost host := by
  refine ⟨fun c hc => ?_, .inr ⟨fun hc => ?_, fun hc => ?_⟩⟩
  · obtain ⟨hlo, hhi, hno⟩ := h c hc
    refine ⟨hlo, hhi, fun hmem => hno ?_⟩
    exact List.mem_append_left [':', '['] hmem
  · exact absurd (h _ hc).2.2 (by decide)
  · exact absurd (h _ hc).2.2 (by decide)

lemma bracketed?_of_not_mem (h : '[' ∉ cs) : bracketed? cs = none := by
  rw [bracketed?.eq_def]
  split
  · exact absurd List.mem_cons_self h
  · rfl

/-! ### Addresses -/

lemma bracketed?_ipv6 (inner : List Char) :
    bracketed? ('[' :: inner ++ [']']) = some (some inner) := by
  simp [bracketed?]

lemma isHost_ipv6 (ps : List ℕ) : IsHost ('[' :: ipv6Text ps ++ [']']) := by
  have hmem {c : Char} (hc : c ∈ ipv6Text ps) : c ∈ ':' :: pieceChars :=
    List.mem_cons.mpr (mem_ipv6Text hc)
  refine ⟨fun c hc => ?_, .inl ⟨_, rfl, fun hc => ?_, fun hc => ?_⟩⟩
  · have hall : ∀ c ∈ '[' :: ']' :: ':' :: pieceChars,
        IsInner c := by decide
    refine hall c ?_
    simp only [List.cons_append, List.mem_cons, List.mem_append, List.not_mem_nil,
      or_false] at hc ⊢
    rcases hc with hc | hc | hc
    · exact .inl hc
    · exact .inr (.inr (List.mem_cons.mp (hmem hc)))
    · exact .inr (.inl hc)
  · exact absurd (hmem hc) (by decide)
  · exact absurd (hmem hc) (by decide)

lemma isHost_ipv4 (a : ℕ) : IsHost (ipv4Text a) := by
  have hall : ∀ c ∈ ipv4Chars, 0x20 < c.toNat ∧ c.toNat < 0x7F ∧
      c ∉ ['/', '\\', '?', '#', '|', '@', ':', '['] := by decide
  exact isHost_of_forall fun c hc => hall c (mem_ipv4Text hc)

/-- A written address in brackets is read as itself, under any scheme. -/
lemma parse_ipv6 {ps : List ℕ} (h : IsAddress ps) :
    parseDomainHost ('[' :: ipv6Text ps ++ [']']) = .ok ('[' :: ipv6Text ps ++ [']']) ∧
      parseOpaqueHost ('[' :: ipv6Text ps ++ [']']) = .ok ('[' :: ipv6Text ps ++ [']']) := by
  simp only [parseDomainHost, parseOpaqueHost, bracketed?_ipv6, parseIpv6_ipv6Text h, and_self]

/-! ### Names -/

/-- A name in its ASCII form that holds nothing forbidden is read as itself. -/
lemma toAscii?_of_ascii? (h : Domain.ascii? cs = some cs)
    (hno : cs.any Domain.isForbidden = false) : Domain.toAscii? (percentDecode cs) = some cs := by
  have hpercent : '%' ∉ cs := fun hc => by
    have := List.any_eq_false.mp hno '%' hc
    exact this (by decide)
  simp only [Domain.toAscii?, percentDecode_of_not_mem hpercent, Utf8.decodeLossy_encode, h, hno,
    Option.bind_eq_bind, Option.bind_some, Bool.false_eq_true, if_false]
  rfl

lemma isHost_of_isForbidden (hlower : Domain.IsLower cs)
    (hno : cs.any Domain.isForbidden = false) : IsHost cs := by
  refine isHost_of_forall fun c hc => ?_
  have hc' : Domain.isForbidden c = false := by simpa using List.any_eq_false.mp hno c hc
  have hlt := (hlower c hc).1
  simp only [Domain.isForbidden, Bool.or_eq_false_iff, decide_eq_false_iff_not] at hc'
  obtain ⟨⟨hlo, hdel⟩, hlist⟩ := hc'
  refine ⟨by omega, by omega, fun hmem => ?_⟩
  have hall : ∀ c ∈ ['/', '\\', '?', '#', '|', '@', ':', '['],
      "#%/:<>?@[\\]^|".toList.elem c = true := by decide
  rw [hall c hmem] at hlist
  exact Bool.noConfusion hlist

/-- An IPv4 address is such a name. -/
lemma ascii?_ipv4 (a : ℕ) : Domain.ascii? (ipv4Text a) = some (ipv4Text a) ∧
    (ipv4Text a).any Domain.isForbidden = false := by
  have hall : ∀ c ∈ ipv4Chars, (c.toNat < 0x80 ∧ Domain.isCapital c.toNat = false) ∧ c ≠ 'x' ∧
      Domain.isForbidden c = false := by decide
  have hlower : Domain.IsLower (ipv4Text a) := fun c hc => (hall c (mem_ipv4Text hc)).1
  have hx : 'x' ∉ ipv4Text a := fun hc => (hall _ (mem_ipv4Text hc)).2.1 rfl
  refine ⟨hlower.ascii?_of_isPlain (hlower.isPlain hx), List.any_eq_false.mpr fun c hc => ?_⟩
  simp [(hall c (mem_ipv4Text hc)).2.2]

lemma parseDomainHost_of_ascii? (hne : cs ≠ []) (h : Domain.ascii? cs = some cs)
    (hno : cs.any Domain.isForbidden = false) :
    parseDomainHost cs = if endsInNumber cs then parseIpv4 cs else .ok cs := by
  have hbracket : '[' ∉ cs := fun hc => by
    have := List.any_eq_false.mp hno '[' hc
    exact this (by decide)
  rw [parseDomainHost, bracketed?_of_not_mem hbracket]
  obtain ⟨c, cs, rfl⟩ := List.exists_cons_of_ne_nil hne
  simp only [toAscii?_of_ascii? h hno]

/-- **The host of a special scheme is read as itself.** -/
theorem parseDomainHost_readBack (h : parseDomainHost cs = .ok host)
    (hlen : Domain.HasReadableLabels host) :
    parseDomainHost host = .ok host ∧ IsHost host ∧ host ≠ [] := by
  rw [parseDomainHost] at h
  split at h
  · obtain ⟨ps, hps, rfl⟩ := parseIpv6_eq_ok h
    exact ⟨(parse_ipv6 hps).1, isHost_ipv6 ps, List.cons_ne_nil _ _⟩
  · cases h
  · split at h
    · cases h
    · cases h
    · next d hne hd =>
      split at h
      · obtain ⟨a, ha, rfl⟩ := parseIpv4_eq_ok h
        obtain ⟨hread, hno⟩ := ascii?_ipv4 a
        refine ⟨?_, isHost_ipv4 a, ipv4Text_ne_nil a⟩
        rw [parseDomainHost_of_ascii? (ipv4Text_ne_nil a) hread hno,
          if_pos (endsInNumber_ipv4Text a), parseIpv4_ipv4Text ha]
      · next hnum =>
        cases h
        simp only [Domain.toAscii?, Option.bind_eq_bind, Option.bind_eq_some_iff,
          Option.ite_none_left_eq_some, Option.pure_def, Option.some.injEq] at hd
        obtain ⟨_, hascii, hno, rfl⟩ := hd
        obtain ⟨hlower, hread⟩ := Domain.ascii?_readBack hascii hlen
        have hno' := Bool.eq_false_iff.mpr hno
        have hagain := parseDomainHost_of_ascii? hne hread hno'
        exact ⟨by rw [hagain, if_neg hnum], isHost_of_isForbidden hlower hno', hne⟩

/-! ### Opaque hosts -/

lemma isForbiddenHostChar_of_mem (h : c ∈ escapeChars) : isForbiddenHostChar c = false :=
  (by decide : ∀ c ∈ escapeChars, isForbiddenHostChar c = false) c h

/-- **The host of any other scheme is read as itself.** -/
theorem parseOpaqueHost_readBack (h : parseOpaqueHost cs = .ok host) :
    parseOpaqueHost host = .ok host ∧ IsHost host := by
  rw [parseOpaqueHost] at h
  split at h
  · obtain ⟨ps, hps, rfl⟩ := parseIpv6_eq_ok h
    exact ⟨(parse_ipv6 hps).2, isHost_ipv6 ps⟩
  · cases h
  · split at h
    · cases h
    · next hno =>
      cases h
      have hforbidden : ∀ c ∈ encode controlSet cs, isForbiddenHostChar c = false := by
        intro c hc
        rcases mem_encode hc with ⟨hmem, -⟩ | hmem
        · simpa using List.any_eq_false.mp (Bool.eq_false_iff.mpr hno) c hmem
        · exact isForbiddenHostChar_of_mem hmem
      have hhost : IsHost (encode controlSet cs) := by
        refine isHost_of_forall fun c hc => ?_
        have hkeeps := keeps_of_mem_encode keepsEscapes_controlSet hc
        have hne {d : Char} (hd : isForbiddenHostChar d = true) : c ≠ d := fun heq => by
          rw [← heq, hforbidden c hc] at hd
          exact Bool.noConfusion hd
        refine ⟨?_, hkeeps.2.1, fun hmem => ?_⟩
        · have hspace : c.toNat ≠ 0x20 := fun heq =>
            hne (d := ' ') (by decide) (Char.toNat_inj.mp heq)
          have := hkeeps.1
          omega
        · have hall : ∀ d ∈ ['/', '\\', '?', '#', '|', '@', ':', '['],
              isForbiddenHostChar d = true := by decide
          exact hne (hall c hmem) rfl
      refine ⟨?_, hhost⟩
      have hbracket : '[' ∉ encode controlSet cs := fun hc =>
        absurd (hforbidden _ hc) (by decide)
      have hany : (encode controlSet cs).any isForbiddenHostChar = false :=
        List.any_eq_false.mpr fun c hc => by simp [hforbidden c hc]
      rw [parseOpaqueHost, bracketed?_of_not_mem hbracket]
      simp only [hany, Bool.false_eq_true, if_false, encode_encode keepsEscapes_controlSet]

end TeamSync.Url
