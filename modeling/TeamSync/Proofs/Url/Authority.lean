import TeamSync.Proofs.Numerals
import TeamSync.Proofs.Url.HostText
import TeamSync.Proofs.Url.Path

/-!
Authorities are read back. User name and password, host and port stand apart from each other as they
are written, and each is read as itself.
-/

namespace TeamSync

namespace Url

open Text

variable {cs : List Char} {c : Char}

/-! ### User names and passwords -/

/-- A text before an `@` that is read as it is written. -/
structure IsUser (x : List Char) : Prop where
  inner : ∀ c ∈ x, IsInner c
  nonempty : x ≠ []
  read : userinfoText x = x ++ ['@']

lemma isInner_of_keeps (h : userinfoSet.Keeps c) : c ≠ ':' ∧ IsInner c := by
  obtain ⟨hlo, hhi, hno⟩ := h
  have hne {d : Char} (hd : d ∈ userinfoSet.chars) : c ≠ d := fun heq => hno (heq ▸ hd)
  have hspace : c.toNat ≠ 0x20 := fun heq =>
    hne (d := ' ') (by decide) (Char.toNat_inj.mp heq)
  have hall : ∀ d ∈ ['/', '\\', '?', '#', '|', '@'], d ∈ userinfoSet.chars := by decide
  exact ⟨hne (by decide), by omega, hhi, fun hmem => hno (hall c hmem)⟩

lemma takeWhile_colon {x : List Char} (h : ∀ c ∈ x, c ≠ ':') (rest : List Char) :
    (x ++ ':' :: rest).takeWhile (· ≠ ':') = x ∧
      (x ++ ':' :: rest).dropWhile (· ≠ ':') = ':' :: rest := by
  have hx : ∀ c ∈ x, decide (c ≠ ':') = true := fun c hc => decide_eq_true (h c hc)
  rw [List.takeWhile_append_of_pos hx, List.dropWhile_append_of_pos hx]
  simp

lemma isInner_encode (cs : List Char) : ∀ c ∈ encode userinfoSet cs, c ≠ ':' ∧ IsInner c :=
  fun _ hc => isInner_of_keeps (keeps_of_mem_encode keepsEscapes_userinfoSet hc)

/-- What is written before a host is nothing, or a text before an `@`. -/
lemma userinfoText_cases (cs : List Char) :
    userinfoText cs = [] ∨ ∃ x, IsUser x ∧ userinfoText cs = x ++ ['@'] := by
  have hname := isInner_encode (cs.takeWhile (· ≠ ':'))
  have hcolon {d : Char} {ds : List Char} (h : d ∈ encode userinfoSet ds) : d ≠ ':' :=
    (isInner_encode ds d h).1
  rw [userinfoText]
  generalize cs.takeWhile (· ≠ ':') = name at hname
  split
  · next d password _ =>
    refine .inr ⟨encode userinfoSet name ++ ':' :: encode userinfoSet (d :: password), ?_, by simp⟩
    refine ⟨?_, by simp, ?_⟩
    · intro c hc
      rcases List.mem_append.mp hc with hc | hc
      · exact (hname c hc).2
      · rcases List.mem_cons.mp hc with rfl | hc
        · decide
        · exact (isInner_encode _ c hc).2
    · obtain ⟨htake, hdrop⟩ := takeWhile_colon (x := encode userinfoSet name)
        (fun c hc => hcolon hc) (encode userinfoSet (d :: password))
      have hagain := encode_encode keepsEscapes_userinfoSet (d :: password)
      rw [userinfoText, htake, hdrop]
      rcases hpw : encode userinfoSet (d :: password) with _ | ⟨e, es⟩
      · exact absurd hpw (encode_ne_nil (List.cons_ne_nil _ _))
      · rw [hpw] at hagain
        simp only [encode_encode keepsEscapes_userinfoSet, hagain]
  · rcases hempty : encode userinfoSet name with _ | ⟨d, ds⟩
    · exact .inl rfl
    · refine .inr ⟨d :: ds, ⟨fun c hc => ?_, List.cons_ne_nil _ _, ?_⟩, rfl⟩
      · exact (hname c (hempty ▸ hc)).2
      · have hall : ∀ c ∈ d :: ds, decide (c ≠ ':') = true := fun c hc =>
          decide_eq_true (hname c (hempty ▸ hc)).1
        have hagain := encode_encode keepsEscapes_userinfoSet name
        rw [hempty] at hagain
        rw [userinfoText, List.takeWhile_eq_self_iff.mpr hall, List.dropWhile_eq_nil_iff.mpr hall,
          hagain]
        rfl

/-! ### Whole authorities -/

/-- A port as it is written. -/
def portText : Option ℕ → List Char
  | some p => ':' :: Numeral.ofNat p
  | none => []

namespace Authority

/-- An authority as it is written. -/
def text (a : Authority) : List Char := a.userinfo ++ a.host ++ portText a.port

/-- An authority whose parts are written as they are read. Where there is no host there is nothing
else. -/
structure Settled (k : SchemeKind) (scheme : List Char) (a : Authority) : Prop where
  user : a.userinfo = [] ∨ ∃ x, IsUser x ∧ a.userinfo = x ++ ['@']
  host : IsHost a.host
  read : if k = .special then a.host ≠ [] ∧ parseDomainHost a.host = .ok a.host
    else parseOpaqueHost a.host = .ok a.host
  bare : a.host = [] → a.userinfo = [] ∧ a.port = none
  port : ∀ p ∈ a.port, p < 65536 ∧ defaultPort scheme ≠ some p

end Authority

variable {k : SchemeKind} {scheme : List Char} {a : Authority}

lemma parsePort_eq_ok {port : Option ℕ} (h : parsePort scheme cs = .ok port) :
    ∀ p ∈ port, p < 65536 ∧ defaultPort scheme ≠ some p := by
  rw [parsePort] at h
  split at h
  · cases h; exact fun p hp => by cases hp
  · split at h
    · split at h
      · next n _ hlt =>
        cases h
        intro p hp
        rw [Option.mem_def, Option.ite_none_left_eq_some] at hp
        obtain ⟨hne, hp⟩ := hp
        cases hp
        exact ⟨hlt, hne⟩
      · cases h
    · cases h

/-- A port that is written as a number is read as that number. -/
lemma parsePort_ofNat {p : ℕ} (hlt : p < 65536) (hne : defaultPort scheme ≠ some p) :
    parsePort scheme (Numeral.ofNat p) = .ok (some p) := by
  have hempty : (Numeral.ofNat p).isEmpty = false :=
    List.isEmpty_eq_false_iff.mpr Nat.toDigits_ne_nil
  simp only [parsePort, hempty, Numeral.digits?_ofNat, hlt, hne, Bool.false_eq_true, if_false,
    if_true]

/-! ### Reading -/

/-- The text before the host as it is written, and what follows it. -/
def cutUser (cs : List Char) (followed : Bool) : Except ParseError (List Char × List Char) :=
  match cutLastAt cs with
  | none => .ok ([], cs)
  | some ([], rest) => if rest.isEmpty ∧ followed then .error .emptyHost else .ok ([], rest)
  | some (user, rest) => .ok (userinfoText user, rest)

/-- The host of an authority by the kind of its scheme. -/
def parseHost (k : SchemeKind) (cs : List Char) : Except ParseError (List Char) :=
  if k = .special then if cs.isEmpty then .error .emptyHost else parseDomainHost cs
  else parseOpaqueHost cs

/-- What is read behind the host. -/
def parseBehind (scheme userinfo host behind : List Char) :
    Except ParseError (Authority × List Char) :=
  if host.isEmpty ∧ (¬behind.isEmpty ∨ ¬userinfo.isEmpty) then .error .emptyHost
  else do
    let port ← parsePort scheme ((behind.drop 1).takeWhile (· ≠ '\\'))
    return (⟨userinfo, host, port⟩, (behind.drop 1).dropWhile (· ≠ '\\'))

/-- An authority is read part by part. -/
lemma parseAuthority_eq (cs : List Char) (followed : Bool) :
    parseAuthority k scheme cs followed = (do
      let (userinfo, rest) ← cutUser cs followed
      let host ← parseHost k (rest.take (hostLength false rest))
      parseBehind scheme userinfo host (rest.drop (hostLength false rest))) := by
  unfold parseAuthority cutUser parseHost parseBehind
  simp only [bind, Except.bind]
  rcases cutLastAt cs with _ | ⟨_ | ⟨u, us⟩, rest⟩
  · simp only
    by_cases hk : k = .special
    · simp only [if_pos hk]
      split <;> rfl
    · simp only [if_neg hk]
  · simp only
    split
    · rfl
    · by_cases hk : k = .special
      · simp only [if_pos hk]
        split <;> rfl
      · simp only [if_neg hk]
  · simp only
    by_cases hk : k = .special
    · simp only [if_pos hk]
      split <;> rfl
    · simp only [if_neg hk]

/-! ### What is read -/

lemma cutUser_eq_ok {followed : Bool} {userinfo rest : List Char}
    (h : cutUser cs followed = .ok (userinfo, rest)) :
    userinfo = [] ∨ ∃ x, IsUser x ∧ userinfo = x ++ ['@'] := by
  rw [cutUser.eq_def] at h
  split at h
  · cases h; exact .inl rfl
  · split at h
    · cases h
    · cases h; exact .inl rfl
  · cases h; exact userinfoText_cases _

lemma parseHost_eq_ok {host : List Char} (h : parseHost k cs = .ok host)
    (hlen : k = .special → Domain.HasReadableLabels host) :
    IsHost host ∧ if k = .special then host ≠ [] ∧ parseDomainHost host = .ok host
      else parseOpaqueHost host = .ok host := by
  rw [parseHost] at h
  split at h
  · next hk =>
    rw [if_pos hk]
    split at h
    · cases h
    · obtain ⟨hread, hhost, hne⟩ := parseDomainHost_readBack h (hlen hk)
      exact ⟨hhost, hne, hread⟩
  · next hk =>
    rw [if_neg hk]
    exact (parseOpaqueHost_readBack h).symm

/-- **What is read as an authority is settled.** -/
theorem settled_of_parseAuthority {followed : Bool} {left : List Char}
    (h : parseAuthority k scheme cs followed = .ok (a, left))
    (hlen : k = .special → Domain.HasReadableLabels a.host) : a.Settled k scheme := by
  rw [parseAuthority_eq] at h
  simp only [bind, Except.bind] at h
  split at h
  · cases h
  · next parts hparts =>
    split at h
    · cases h
    · next host hhost =>
      rw [parseBehind] at h
      split at h
      · cases h
      · next hbare =>
        simp only [bind, Except.bind] at h
        split at h
        · cases h
        · next port hport =>
          cases h
          obtain ⟨hhost', hread⟩ := parseHost_eq_ok hhost hlen
          refine ⟨cutUser_eq_ok hparts, hhost', hread, fun hempty => ?_, parsePort_eq_ok hport⟩
          have hempty' : host = [] := hempty
          simp only [hempty', List.isEmpty_nil, true_and, not_or, not_not,
            List.isEmpty_iff] at hbare
          refine ⟨hbare.2, ?_⟩
          rw [hbare.1] at hport
          cases hport
          rfl

/-! ### Reading it back -/

lemma cutLastAt_append {x rest : List Char} (h : '@' ∉ rest) :
    cutLastAt (x ++ '@' :: rest) = some (x, rest) := by
  have hall : ∀ c ∈ rest.reverse, decide (c ≠ '@') = true := fun c hc =>
    decide_eq_true fun heq => h (heq ▸ List.mem_reverse.mp hc)
  have hrev : (x ++ '@' :: rest).reverse = rest.reverse ++ '@' :: x.reverse := by simp
  rw [cutLastAt, hrev, List.dropWhile_append_of_pos hall, List.takeWhile_append_of_pos hall]
  simp

lemma cutLastAt_of_not_mem (h : '@' ∉ cs) : cutLastAt cs = none := by
  have hall : ∀ c ∈ cs.reverse, decide (c ≠ '@') = true := fun c hc =>
    decide_eq_true fun heq => h (heq ▸ List.mem_reverse.mp hc)
  rw [cutLastAt, List.dropWhile_eq_nil_iff.mpr hall]

lemma hostLength_brackets {inner : List Char} (ho : '[' ∉ inner) (hc : ']' ∉ inner)
    (rest : List Char) :
    hostLength true (inner ++ ']' :: rest) = inner.length + 1 + hostLength false rest := by
  induction inner with
  | nil => simp [hostLength]; omega
  | cons d ds ih =>
    obtain ⟨ho', ho⟩ := List.ne_and_not_mem_of_not_mem_cons ho
    obtain ⟨hc', hc⟩ := List.ne_and_not_mem_of_not_mem_cons hc
    rw [List.cons_append, hostLength]
    simp only [not_true_eq_false, and_false, if_false, ho'.symm, hc'.symm, ih ho hc,
      List.length_cons]
    omega

lemma hostLength_append {host : List Char} (hcolon : ':' ∉ host) (hopen : '[' ∉ host)
    (rest : List Char) : hostLength false (host ++ rest) = host.length + hostLength false rest := by
  induction host with
  | nil => simp
  | cons d ds ih =>
    obtain ⟨hd, hds⟩ := List.ne_and_not_mem_of_not_mem_cons hcolon
    obtain ⟨hd', hds'⟩ := List.ne_and_not_mem_of_not_mem_cons hopen
    rw [List.cons_append, hostLength]
    simp only [hd.symm, hd'.symm, false_and, if_false, ite_self, ih hds hds', List.length_cons]
    omega

/-- A host ends where its port begins. -/
lemma IsHost.hostLength {host : List Char} (h : IsHost host) (port : Option ℕ) :
    hostLength false (host ++ portText port) = host.length := by
  have hport : Url.hostLength false (portText port) = 0 := by
    cases port <;> simp [portText, Url.hostLength]
  rcases h.colons with ⟨inner, rfl, ho, hc⟩ | ⟨hcolon, hopen⟩
  · have hin := hostLength_brackets ho hc (portText port)
    have htext : '[' :: inner ++ [']'] ++ portText port =
        '[' :: (inner ++ ']' :: portText port) := by simp
    rw [htext, Url.hostLength, if_neg (by decide), if_pos rfl, hin, hport]
    simp
  · rw [hostLength_append hcolon hopen, hport, Nat.add_zero]

lemma isInner_portText {port : Option ℕ} (h : c ∈ portText port) : IsInner c := by
  cases port with
  | none => exact absurd h List.not_mem_nil
  | some p =>
    have hall : ∀ c ∈ ':' :: (List.range 10).map Nat.digitChar, IsInner c := by decide
    refine hall c (List.mem_cons.mpr ((List.mem_cons.mp h).imp_right fun hc => ?_))
    obtain ⟨d, hd, rfl⟩ := mem_toDigits (by decide) hc
    exact List.mem_map_of_mem (List.mem_range.mpr hd)

namespace Authority.Settled

variable (h : a.Settled k scheme)
include h

lemma isInner_behind : ∀ c ∈ a.host ++ portText a.port, IsInner c := fun c hc =>
  (List.mem_append.mp hc).elim (h.host.inner c) isInner_portText

/-- A written authority holds nothing that ends it. -/
lemma mem_text (hc : c ∈ a.text) : 0x20 < c.toNat ∧ c.toNat < 0x7F ∧ c ∉ ['/', '\\', '?', '#'] := by
  have hinner (hc : IsInner c) :
      0x20 < c.toNat ∧ c.toNat < 0x7F ∧ c ∉ ['/', '\\', '?', '#'] :=
    ⟨hc.1, hc.2.1, fun hmem => hc.2.2 (List.mem_append_left ['|', '@'] hmem)⟩
  rw [text, List.append_assoc] at hc
  rcases List.mem_append.mp hc with hc | hc
  · rcases h.user with huser | ⟨x, hx, huser⟩
    · rw [huser] at hc
      exact absurd hc List.not_mem_nil
    · rw [huser, List.mem_append, List.mem_singleton] at hc
      rcases hc with hc | rfl
      · exact hinner (hx.inner c hc)
      · decide
  · exact hinner (h.isInner_behind c hc)

lemma cutUser_text (followed : Bool) :
    cutUser a.text followed = .ok (a.userinfo, a.host ++ portText a.port) := by
  have hrest : '@' ∉ a.host ++ portText a.port := fun hmem =>
    absurd (h.isInner_behind _ hmem).2.2 (by decide)
  rcases h.user with huser | ⟨x, hx, huser⟩
  · rw [cutUser, text, huser, List.nil_append, cutLastAt_of_not_mem hrest]
  · have htext : a.text = x ++ '@' :: (a.host ++ portText a.port) := by simp [text, huser]
    obtain ⟨d, ds, rfl⟩ := List.exists_cons_of_ne_nil hx.nonempty
    rw [cutUser, htext, cutLastAt_append hrest]
    simp only [hx.read, huser]

lemma parseHost_eq : parseHost k a.host = .ok a.host := by
  have hread := h.read
  rw [parseHost]
  split at hread
  · next hk =>
    rw [if_pos hk, if_neg (by simpa using hread.1), hread.2]
  · next hk => rw [if_neg hk, hread]

/-- **A settled authority is read as it is written.** -/
theorem parseAuthority_text (followed : Bool) :
    parseAuthority k scheme a.text followed = .ok (a, []) := by
  have hbare : ¬(a.host.isEmpty = true ∧
      (¬(portText a.port).isEmpty = true ∨ ¬a.userinfo.isEmpty = true)) := by
    rintro ⟨hempty, hsome⟩
    obtain ⟨huser, hport⟩ := h.bare (List.isEmpty_iff.mp hempty)
    simp [huser, hport, portText] at hsome
  have hport : parsePort scheme (((portText a.port).drop 1).takeWhile (· ≠ '\\')) = .ok a.port ∧
      ((portText a.port).drop 1).dropWhile (· ≠ '\\') = [] := by
    have hall : ∀ c ∈ (portText a.port).drop 1, decide (c ≠ '\\') = true := fun c hc =>
      decide_eq_true fun heq => by
        have := isInner_portText (List.mem_of_mem_drop hc)
        rw [heq] at this
        exact absurd this (by decide)
    rw [List.takeWhile_eq_self_iff.mpr hall, List.dropWhile_eq_nil_iff.mpr hall]
    refine ⟨?_, rfl⟩
    have hp := h.port
    cases hport : a.port with
    | none => rfl
    | some p =>
      obtain ⟨hlt, hne⟩ := hp p hport
      exact parsePort_ofNat hlt hne
  rw [parseAuthority_eq]
  simp only [h.cutUser_text, h.host.hostLength, bind, Except.bind, List.take_left, List.drop_left,
    h.parseHost_eq, parseBehind, if_neg hbare, hport.1, hport.2]
  rfl

end Authority.Settled

end Url

end TeamSync
