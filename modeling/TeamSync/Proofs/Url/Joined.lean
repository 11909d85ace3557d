import TeamSync.Proofs.Url.Parsed

/-!
URLs with a path put behind them. Without the slashes at its end a URL that has neither query nor
fragment leads, whatever its scheme, to the same host and port with the path behind its own.
-/

namespace TeamSync.Url

open Text

variable {scheme cs : List Char} {k : SchemeKind} {segs : List (List Char)}

/-! ### The text of a URL -/

/-- What stands between a scheme and a path. -/
def authorityText (a : Option Authority) (path : List Char) : List Char :=
  match a with
  | some a => '/' :: '/' :: a.text
  | none => if path.take 2 = ['/', '/'] then ['/', '.'] else []

/-- A URL is written part by part. -/
lemma toText_assemble (k : SchemeKind) (scheme : List Char) (a : Option Authority)
    (path : List Char) :
    (assemble k scheme a path []).toText.toList =
      scheme ++ ':' :: authorityText a path ++ path := by
  cases a with
  | none =>
    by_cases hpath : path.take 2 = ['/', '/'] <;>
      simp [assemble, queryAndFragment, toText, authorityText, hpath]
  | some a =>
    obtain ⟨userinfo, host, port⟩ := a
    cases port <;>
      simp [assemble, queryAndFragment, toText, authorityText, Authority.text, portText,
        Numeral.ofNat]

/-! ### Paths of endpoints -/

/-- The segments of a path that is put behind a URL: it begins with one slash, and with neither dots
nor a drive letter, and is read alike under every scheme. -/
structure IsEndpoint (ends : List (List Char)) : Prop where
  segments : ∀ k, Segments k ends
  head : ∃ seg segs, ends = seg :: segs ∧ seg ≠ [] ∧ isDriveLetter seg = false

variable {ends : List (List Char)}

lemma visible_of_keeps {c : Char} (h : pathSet.Keeps c) : 0x20 < c.toNat := by
  have hspace : c.toNat ≠ 0x20 := fun heq => h.2.2 <| by
    rw [show c = ' ' from Char.toNat_inj.mp heq]; decide
  have := h.1
  omega

lemma Segments.visible (h : Segments k segs) : ∀ c ∈ slashed segs, 0x20 < c.toNat := by
  intro c hc
  obtain ⟨seg, hseg, hc⟩ := mem_slashed.mp hc
  rcases hc with rfl | hc
  · decide
  · exact visible_of_keeps ((h seg hseg).1.keeps c hc)

namespace IsEndpoint

variable (h : IsEndpoint ends)
include h

lemma ne_nil : ends ≠ [] := by
  obtain ⟨seg, segs, rfl, -⟩ := h.head
  exact List.cons_ne_nil _ _

lemma append_ne_nil (ss : List (List Char)) : ss ++ ends ≠ [] := fun hnil =>
  h.ne_nil (List.append_eq_nil_iff.mp hnil).2

lemma slashed_ne_nil : slashed ends ≠ [] := by
  obtain ⟨seg, segs, rfl, -⟩ := h.head
  exact List.cons_ne_nil _ _

/-- The text of a URL that ends with such a path is read by its scheme. -/
lemma parse_append {s : String} {R : List Char} (hscheme : IsScheme scheme)
    (hs : s.toList = scheme ++ ':' :: R ++ slashed ends) (hR : ∀ c ∈ R, 0x20 ≤ c.toNat) :
    parse s = parseBehindScheme scheme (R ++ slashed ends) := by
  have hvisible := (h.segments .other).visible
  refine parse_eq (by rw [hs]; simp) hscheme (fun c hc => ?_) fun c hc => ?_
  · exact (List.mem_append.mp hc).elim (hR c) fun hc => Nat.le_of_lt (hvisible c hc)
  · rw [hs, List.getLast?_append_of_ne_nil _ h.slashed_ne_nil] at hc
    exact hvisible c (List.mem_of_getLast? hc)

end IsEndpoint

/-! ### Behind an authority -/

lemma Segments.trimmed (h : Segments k segs) : Segments k (trimmed segs) := fun seg hseg =>
  h seg (mem_of_mem_trimmed hseg)

lemma Segments.append (h : Segments k segs) (hends : IsEndpoint ends) :
    Segments k (Text.trimmed segs ++ ends) := fun seg hseg =>
  (List.mem_append.mp hseg).elim (h.trimmed seg) (hends.segments k seg)

lemma Segments.slash_not_mem (h : Segments k segs) : ∀ seg ∈ segs, '/' ∉ seg := fun seg hs =>
  Url.slash_not_mem (h seg hs).1.whole

/-- A URL without its slashes at the end, and a path. -/
def joinedText (scheme : List Char) (a : Option Authority) (path : List Char)
    (ends : List (List Char)) : List Char :=
  dropEndWhile (· == '/') (scheme ++ ':' :: authorityText a path ++ path) ++ slashed ends

/-- A URL leads to the host of another: the same one, or none where that one has an empty one. -/
def SameHost (a b : Option Authority) : Prop := a = b ∨ b = some ⟨[], [], none⟩ ∧ a = none

variable {a : Authority} {s : String}

lemma Authority.Settled.slash_not_mem (h : a.Settled k scheme) : '/' ∉ a.text := fun hc =>
  absurd (h.mem_text hc).2.2 (by decide)

lemma Authority.Settled.text_eq_nil_iff (h : a.Settled k scheme) : a.text = [] ↔ a.host = [] := by
  rw [Authority.text, List.append_eq_nil_iff, List.append_eq_nil_iff]
  constructor
  · exact fun h => h.1.2
  · intro hhost
    obtain ⟨huser, hport⟩ := h.bare hhost
    exact ⟨⟨huser, hhost⟩, by rw [hport]; rfl⟩

/-- Two slashes and an authority are read as it. -/
lemma parseBehindScheme_authority (hk : schemeKind scheme = k) (hf : k ≠ .file)
    (h : a.Settled k scheme) (hsegs : Segments k segs) (hne : k = .special → segs ≠ []) :
    parseBehindScheme scheme ('/' :: '/' :: (a.text ++ slashed segs)) =
      .ok (assemble k scheme (some a) (slashed segs) []) := by
  have hread := parseWithAuthority_eq h hsegs hf hne
  rw [parseBehindScheme, hk]
  cases k with
  | file => exact absurd rfl hf
  | other => exact hread
  | special =>
    have hhost : a.host ≠ [] := by
      have := h.read
      rw [if_pos rfl] at this
      exact this.1
    obtain ⟨c, cs, hc⟩ := List.exists_cons_of_ne_nil (mt h.text_eq_nil_iff.mp hhost)
    have hslash : isSlash .special c = false := by
      have hno := (h.mem_text (c := c) (hc ▸ List.mem_cons_self)).2.2
      simp only [List.mem_cons, List.not_mem_nil, or_false, not_or] at hno
      simp [isSlash, hno]
    have hdrop : ('/' :: '/' :: (a.text ++ slashed segs)).dropWhile (isSlash .special) =
        a.text ++ slashed segs := by
      rw [hc]
      simp [isSlash_slash, hslash]
    simp only [hdrop, hread]

/-- What stands in front of a path keeps its end. -/
lemma joinedText_eq {b : Option Authority} {path : List Char}
    (h : (scheme ++ ':' :: authorityText b path).getLast? ≠ some '/') (ends : List (List Char)) :
    joinedText scheme b path ends =
      scheme ++ ':' :: (authorityText b path ++ dropEndWhile (· == '/') path) ++ slashed ends := by
  have hdrop := dropEndWhile_append h path
  rw [joinedText, hdrop]
  simp

lemma getLast?_concat_colon (scheme : List Char) : (scheme ++ [':']).getLast? ≠ some '/' := by
  rw [List.getLast?_concat]; decide

/-- Behind an authority the slashes at the end are those of the path. -/
lemma joinedText_authority (hsegs : ∀ seg ∈ segs, '/' ∉ seg) (hne : a.text ≠ [])
    (hno : '/' ∉ a.text) (ends : List (List Char)) :
    joinedText scheme (some a) (slashed segs) ends =
      scheme ++ ':' :: ('/' :: '/' :: (a.text ++ slashed (trimmed segs))) ++ slashed ends := by
  have hlast : (scheme ++ ':' :: '/' :: '/' :: a.text).getLast? ≠ some '/' := by
    have happend : scheme ++ ':' :: '/' :: '/' :: a.text = scheme ++ [':', '/', '/'] ++ a.text := by
      simp
    rw [happend, List.getLast?_append_of_ne_nil _ hne]
    exact fun hl => hno (List.mem_of_getLast? hl)
  rw [joinedText_eq hlast, dropEndWhile_slashed hsegs]
  rfl

/-- Where the authority is empty the slashes at the end may include the two that begin it. -/
lemma joinedText_slashes (hsegs : ∀ seg ∈ segs, '/' ∉ seg) (ends : List (List Char)) :
    joinedText scheme (some ⟨[], [], none⟩) (slashed segs) ends =
      scheme ++ ':' :: slashed (trimmed ([] :: [] :: segs)) ++ slashed ends := by
  have hall : ∀ seg ∈ [] :: [] :: segs, '/' ∉ seg :=
    List.forall_mem_cons.mpr ⟨List.not_mem_nil, List.forall_mem_cons.mpr ⟨List.not_mem_nil, hsegs⟩⟩
  have hdrop := dropEndWhile_append (getLast?_concat_colon scheme) (slashed ([] :: [] :: segs))
  rw [dropEndWhile_slashed hall] at hdrop
  rw [joinedText, authorityText]
  simp only [slashed_cons, List.cons_append, List.nil_append, List.append_assoc,
    Authority.text, portText, List.append_nil] at hdrop ⊢
  rw [hdrop]
  simp

/-- Anything but two slashes is read as a path without a host. -/
lemma parseBehindScheme_path {R : List Char} (hk : schemeKind scheme = .other)
    (h : R.take 2 ≠ ['/', '/']) :
    parseBehindScheme scheme R = .ok (parseWithoutAuthority scheme R) := by
  rw [parseBehindScheme, hk]
  rintro r rfl
  exact h rfl

lemma take_slashed {seg : List Char} (hseg : seg ≠ []) (h : '/' ∉ seg) :
    (slashed (seg :: segs)).take 2 ≠ ['/', '/'] := by
  obtain ⟨c, cs, rfl⟩ := List.exists_cons_of_ne_nil hseg
  intro heq
  simp only [slashed_cons, List.cons_append, List.take_succ_cons, List.take_zero,
    List.cons.injEq, true_and, and_true] at heq
  exact h (heq ▸ List.mem_cons_self)

lemma parseBehindScheme_slashed (hk : schemeKind scheme = .other) {seg : List Char}
    (hsegs : Segments .other (seg :: segs)) (hseg : seg ≠ []) :
    parseBehindScheme scheme (slashed (seg :: segs)) =
      .ok (assemble .other scheme none (slashed (seg :: segs)) []) := by
  have hslash := hsegs.slash_not_mem seg List.mem_cons_self
  rw [parseBehindScheme_path hk (take_slashed hseg hslash), parseWithoutAuthority_slashed hsegs]

/-- An empty authority has nothing in it, and the scheme is none that needs a host. -/
lemma Authority.Settled.of_text_eq_nil (h : a.Settled k scheme) (hf : k ≠ .file)
    (hempty : a.text = []) : a = ⟨[], [], none⟩ ∧ k = .other := by
  have hhost := h.text_eq_nil_iff.mp hempty
  obtain ⟨huser, hport⟩ := h.bare hhost
  have hspecial : k ≠ .special := fun hspecial => by
    have hread := h.read
    rw [if_pos hspecial] at hread
    exact hread.1 hhost
  constructor
  · cases a
    simp_all
  · cases k <;> simp_all

/-- A path behind an empty authority is put behind its path, or it stands alone if nothing is left
of the slashes. -/
lemma parse_joined_empty (hscheme : IsScheme scheme) (hk : schemeKind scheme = .other)
    (h : Authority.Settled .other scheme ⟨[], [], none⟩) (hsegs : Segments .other segs)
    (hends : IsEndpoint ends)
    (hs : s.toList = joinedText scheme (some ⟨[], [], none⟩) (slashed segs) ends) :
    ∃ b, SameHost b (some ⟨[], [], none⟩) ∧
      parse s = .ok (assemble .other scheme b (slashed (trimmed segs ++ ends)) []) := by
  rw [joinedText_slashes hsegs.slash_not_mem] at hs
  rcases eq_or_ne (trimmed segs) [] with htrim | htrim
  · have hnil : trimmed ([] :: [] :: segs) = [] :=
      trimmed_append_of_eq_nil [[], []] htrim (by simp)
    obtain ⟨seg, rest, hends', hseg, -⟩ := hends.head
    refine ⟨none, .inr ⟨rfl, rfl⟩, ?_⟩
    rw [hnil] at hs
    rw [hends.parse_append hscheme (R := []) hs fun c hc => absurd hc List.not_mem_nil, htrim]
    rw [List.nil_append, List.nil_append, hends']
    exact parseBehindScheme_slashed hk (hends' ▸ hends.segments .other) hseg
  · have hcons : trimmed ([] :: [] :: segs) = [] :: [] :: trimmed segs :=
      trimmed_append_of_ne_nil [[], []] htrim
    have hread := parseBehindScheme_authority hk (by decide) h (hsegs.append hends)
      fun _ => hends.append_ne_nil (trimmed segs)
    have hvisible : ∀ c ∈ slashed ([] :: [] :: trimmed segs), 0x20 ≤ c.toNat :=
      List.forall_mem_cons.mpr ⟨by decide, List.forall_mem_cons.mpr ⟨by decide, fun c hc =>
        Nat.le_of_lt (hsegs.trimmed.visible c hc)⟩⟩
    refine ⟨_, .inl rfl, ?_⟩
    rw [hcons] at hs
    rw [hends.parse_append hscheme hs hvisible, ← hread, slashed_append]
    simp [Authority.text, portText]

/-- **A path behind an authority is put behind its path.** -/
theorem parse_joined_authority (hscheme : IsScheme scheme) (hk : schemeKind scheme = k)
    (hf : k ≠ .file) (h : a.Settled k scheme) (hsegs : Segments k segs) (hends : IsEndpoint ends)
    (hs : s.toList = joinedText scheme (some a) (slashed segs) ends) :
    ∃ b, SameHost b (some a) ∧
      parse s = .ok (assemble k scheme b (slashed (trimmed segs ++ ends)) []) := by
  rcases eq_or_ne a.text [] with hempty | htext
  · obtain ⟨rfl, rfl⟩ := h.of_text_eq_nil hf hempty
    exact parse_joined_empty hscheme hk h hsegs hends hs
  · have hread := parseBehindScheme_authority hk hf h (hsegs.append hends)
      fun _ => hends.append_ne_nil (trimmed segs)
    have hvisible : ∀ c ∈ '/' :: '/' :: (a.text ++ slashed (trimmed segs)), 0x20 ≤ c.toNat :=
      List.forall_mem_cons.mpr ⟨by decide, List.forall_mem_cons.mpr ⟨by decide, fun c hc =>
        Nat.le_of_lt ((List.mem_append.mp hc).elim (fun hc => (h.mem_text hc).1)
          (hsegs.trimmed.visible c))⟩⟩
    rw [joinedText_authority hsegs.slash_not_mem htext h.slash_not_mem] at hs
    refine ⟨_, .inl rfl, ?_⟩
    rw [hends.parse_append hscheme hs hvisible, ← hread, slashed_append]
    simp

/-! ### Behind a path alone -/

/-- **A path behind a path without a host is put behind it.** -/
theorem parse_joined_rooted (hscheme : IsScheme scheme) (hk : schemeKind scheme = .other)
    (hsegs : Segments .other segs) (hends : IsEndpoint ends)
    (hs : s.toList = joinedText scheme none (slashed segs) ends) :
    parse s = .ok (assemble .other scheme none (slashed (trimmed segs ++ ends)) []) := by
  have hjoin := hsegs.append hends
  have hne := hends.append_ne_nil (trimmed segs)
  have hvisible : ∀ c ∈ slashed (trimmed segs), 0x20 ≤ c.toNat := fun c hc =>
    Nat.le_of_lt (hsegs.trimmed.visible c hc)
  obtain ⟨seg, rest, hends', hseg, -⟩ := hends.head
  by_cases htwo : (slashed segs).take 2 = ['/', '/']
  · -- the step keeps the slashes apart, also when they are all that is left
    have hauthority : authorityText none (slashed segs) = ['/', '.'] := if_pos htwo
    have hlast : (scheme ++ ':' :: authorityText none (slashed segs)).getLast? ≠ some '/' := by
      rw [hauthority, List.getLast?_append_of_ne_nil _ (List.cons_ne_nil _ _)]; decide
    rw [joinedText_eq hlast, dropEndWhile_slashed hsegs.slash_not_mem, hauthority] at hs
    have hR : ∀ c ∈ ['/', '.'] ++ slashed (trimmed segs), 0x20 ≤ c.toNat :=
      List.forall_mem_cons.mpr ⟨by decide, List.forall_mem_cons.mpr ⟨by decide, hvisible⟩⟩
    rw [hends.parse_append hscheme hs hR, List.append_assoc, ← slashed_append,
      parseBehindScheme_path hk (by simp)]
    exact congrArg Except.ok (parseWithoutAuthority_dot hjoin hne)
  · have hauthority : authorityText none (slashed segs) = [] := if_neg htwo
    have hlast : (scheme ++ ':' :: authorityText none (slashed segs)).getLast? ≠ some '/' := by
      rw [hauthority]; exact getLast?_concat_colon scheme
    rw [joinedText_eq hlast, dropEndWhile_slashed hsegs.slash_not_mem, hauthority,
      List.nil_append] at hs
    rw [hends.parse_append hscheme hs hvisible, ← slashed_append]
    rcases trimmed_cases segs with htrim | ⟨first, ss, ts, rfl, htrim⟩
    · rw [htrim, List.nil_append, hends']
      exact parseBehindScheme_slashed hk (hends' ▸ hends.segments .other) hseg
    · rw [htrim] at hjoin ⊢
      refine parseBehindScheme_slashed hk hjoin ?_
      rintro rfl
      cases ss with
      | nil => cases htrim
      | cons second ss => exact htwo rfl

lemma head?_of_take {R : List Char} (h : R.take 2 = ['/', '/']) : R.head? = some '/' := by
  have := congrArg List.head? h
  simpa [List.head?_take] using this

lemma controlSet_keeps_of_mem {c : Char} (h : Segments k segs) (hc : c ∈ slashed segs) :
    controlSet.Keeps c := by
  obtain ⟨seg, hseg, hc⟩ := mem_slashed.mp hc
  rcases hc with rfl | hc
  · decide
  · obtain ⟨hlo, hhi, -⟩ := (h seg hseg).1.keeps c hc
    exact ⟨hlo, hhi, List.not_mem_nil⟩

/-- **A path behind one that is not hierarchical is put behind it**, or stands alone if nothing is
left of that. -/
theorem parse_joined_opaque (hscheme : IsScheme scheme) (hk : schemeKind scheme = .other)
    (hcs : IsOpaque cs) (hends : IsEndpoint ends)
    (hs : s.toList = joinedText scheme none cs ends) :
    parse s =
      .ok (assemble .other scheme none (dropEndWhile (· == '/') cs ++ slashed ends) []) := by
  have hauthority : authorityText none cs = [] := if_neg fun htwo => hcs.head (head?_of_take htwo)
  have hlast : (scheme ++ ':' :: authorityText none cs).getLast? ≠ some '/' := by
    rw [hauthority]; exact getLast?_concat_colon scheme
  have hkept : dropEndWhile (· == '/') cs <+: cs := List.rdropWhile_prefix _ cs
  rw [joinedText_eq hlast, hauthority, List.nil_append] at hs
  rw [hends.parse_append hscheme hs fun c hc => (hcs.keeps c (hkept.subset hc)).1]
  rcases hfront : dropEndWhile (· == '/') cs with _ | ⟨d, ds⟩
  · obtain ⟨seg, rest, hends', hseg, -⟩ := hends.head
    rw [List.nil_append, hends']
    exact parseBehindScheme_slashed hk (hends' ▸ hends.segments .other) hseg
  · rw [hfront] at hkept
    have hends' := hends.segments .other
    have hd : d ≠ '/' := by
      rintro rfl
      obtain ⟨rest, hrest⟩ := hkept
      exact hcs.head (by rw [← hrest]; rfl)
    have hhead : (d :: ds ++ slashed ends).head? ≠ some '/' := by simpa using hd
    have hopaque : IsOpaque (d :: ds ++ slashed ends) := by
      refine ⟨fun c hc => ?_, fun c hc => ?_, hhead⟩
      · exact (List.mem_append.mp hc).elim (fun hc => hcs.keeps c (hkept.subset hc))
          (controlSet_keeps_of_mem hends')
      · exact (List.mem_append.mp hc).elim (fun hc => hcs.whole c (hkept.subset hc))
          (hends'.isPathChar c)
    rw [parseBehindScheme_path hk fun htwo => hhead (head?_of_take htwo),
      parseWithoutAuthority_opaque hopaque]

/-! ### Behind a file URL -/

/-- A file path does not begin with an empty segment, unless that is all of it. -/
lemma dropEmptyFront_cons {seg : List Char} (hseg : seg ≠ []) (segs : List (List Char)) :
    Path.dropEmptyFront (seg :: segs) = seg :: segs := by
  rw [Path.dropEmptyFront.eq_def]
  split
  · next heq => cases heq; exact absurd rfl hseg
  · rfl

lemma length_dropEmptyFront_le (segs : List (List Char)) :
    (Path.dropEmptyFront segs).length ≤ segs.length := by
  induction segs using Path.dropEmptyFront.induct with
  | case1 s ss ih => exact Nat.le_succ_of_le ih
  | case2 segs hno => rw [Path.dropEmptyFront.eq_2 _ hno]

lemma dropEmptyFront_dropEmptyFront (segs : List (List Char)) :
    Path.dropEmptyFront (Path.dropEmptyFront segs) = Path.dropEmptyFront segs := by
  induction segs using Path.dropEmptyFront.induct with
  | case1 s ss ih => exact ih
  | case2 segs hno => rw [Path.dropEmptyFront.eq_2 _ hno, Path.dropEmptyFront.eq_2 _ hno]

lemma mem_of_mem_dropEmptyFront {seg : List Char} (h : seg ∈ Path.dropEmptyFront segs) :
    seg ∈ segs := by
  induction segs using Path.dropEmptyFront.induct with
  | case1 s ss ih => exact List.mem_cons_of_mem _ (ih h)
  | case2 segs hno => rwa [Path.dropEmptyFront.eq_2 _ hno] at h

/-- What is left of a file path begins as it does, and with no empty segment. -/
lemma joined_front (hfront : Path.dropEmptyFront segs = segs) (hends : IsEndpoint ends) :
    ∃ seg rest, trimmed segs ++ ends = seg :: rest ∧ seg ≠ [] ∧
      (seg ∈ segs.head? ∨ isDriveLetter seg = false) := by
  rcases trimmed_cases segs with htrim | ⟨seg, ss, ts, rfl, htrim⟩
  · obtain ⟨seg, rest, hends', hseg, hdrive⟩ := hends.head
    exact ⟨seg, rest, by rw [htrim, hends']; rfl, hseg, .inr hdrive⟩
  · refine ⟨seg, ts ++ ends, by rw [htrim]; rfl, ?_, .inl rfl⟩
    rintro rfl
    cases ss with
    | nil => cases htrim
    | cons second ss =>
      have hlen := length_dropEmptyFront_le (second :: ss)
      have heq : Path.dropEmptyFront (second :: ss) = [] :: second :: ss := hfront
      rw [heq, List.length_cons] at hlen
      omega

lemma dropEmptyFront_joined (hfront : Path.dropEmptyFront segs = segs) (hends : IsEndpoint ends) :
    Path.dropEmptyFront (trimmed segs ++ ends) = trimmed segs ++ ends := by
  obtain ⟨seg, rest, hcons, hseg, -⟩ := joined_front hfront hends
  rw [hcons, dropEmptyFront_cons hseg]

lemma parseBehindScheme_file (hk : schemeKind scheme = .file) (R : List Char) :
    parseBehindScheme scheme R = parseFile scheme R := by
  simp only [parseBehindScheme, hk]

section File

variable (hscheme : IsScheme scheme) (hk : schemeKind scheme = .file)
  (hsegs : Segments .file segs) (hfront : Path.dropEmptyFront segs = segs)
  (hends : IsEndpoint ends)
include hscheme hk hsegs hfront hends

/-- A path is put behind the path of a file URL without a host. -/
lemma parse_joined_bare
    (hs : s.toList = joinedText scheme (some ⟨[], [], none⟩) (slashed segs) ends) :
    parse s = .ok (assemble .file scheme (some ⟨[], [], none⟩)
      (slashed (trimmed segs ++ ends)) []) := by
  have hjoin := hsegs.append hends
  have hdrop := dropEmptyFront_joined hfront hends
  obtain ⟨seg, rest, hcons, -, -⟩ := joined_front hfront hends
  rw [joinedText_slashes hsegs.slash_not_mem] at hs
  rcases eq_or_ne (trimmed segs) [] with htrim | htrim
  · have hnil : trimmed ([] :: [] :: segs) = [] :=
      trimmed_append_of_eq_nil [[], []] htrim (by simp)
    obtain ⟨first, others, hends', hfirst, hdrive⟩ := hends.head
    rw [hnil] at hs
    rw [hends.parse_append hscheme (R := []) hs fun c hc => absurd hc List.not_mem_nil, htrim,
      parseBehindScheme_file hk, List.nil_append, List.nil_append, hends']
    exact parseFile_slashed (hends' ▸ hends.segments .file) hfirst hdrive
  · have htwo : trimmed ([] :: [] :: segs) = [] :: [] :: trimmed segs :=
      trimmed_append_of_ne_nil [[], []] htrim
    have hvisible : ∀ c ∈ slashed ([] :: [] :: trimmed segs), 0x20 ≤ c.toNat :=
      List.forall_mem_cons.mpr ⟨by decide, List.forall_mem_cons.mpr ⟨by decide, fun c hc =>
        Nat.le_of_lt (hsegs.trimmed.visible c hc)⟩⟩
    rw [htwo] at hs
    rw [hends.parse_append hscheme hs hvisible, parseBehindScheme_file hk, ← slashed_append,
      List.cons_append, List.cons_append]
    rw [hcons] at hjoin hdrop ⊢
    refine (parseFile_slashes hjoin).trans ?_
    rw [hdrop]

/-- A path is put behind the path of a file URL with a host, if that does not begin with a drive
letter. -/
lemma parse_joined_host {host : List Char} (hhost : IsHost host) (hne : host ≠ [])
    (hread : parseDomainHost host = .ok host) (hlocal : host ≠ "localhost".toList)
    (hdrive : ∀ seg ∈ segs.head?, isDriveLetter seg = false)
    (hs : s.toList = joinedText scheme (some ⟨[], host, none⟩) (slashed segs) ends) :
    parse s = .ok (assemble .file scheme (some ⟨[], host, none⟩)
      (slashed (trimmed segs ++ ends)) []) := by
  have hjoin := hsegs.append hends
  have hdrop := dropEmptyFront_joined hfront hends
  obtain ⟨seg, rest, hcons, -, hseg⟩ := joined_front hfront hends
  have hseg_drive : isDriveLetter seg = false := hseg.elim (hdrive seg) id
  have htext : (Authority.mk [] host none).text = host := by
    simp [Authority.text, portText]
  have htext_ne : (Authority.mk [] host none).text ≠ [] := by rwa [htext]
  have htext_no : '/' ∉ (Authority.mk [] host none).text := by
    rw [htext]
    exact fun hc => absurd (hhost.inner _ hc).2.2 (by decide)
  have hvisible : ∀ c ∈ '/' :: '/' :: (host ++ slashed (trimmed segs)), 0x20 ≤ c.toNat :=
    List.forall_mem_cons.mpr ⟨by decide, List.forall_mem_cons.mpr ⟨by decide, fun c hc =>
      Nat.le_of_lt ((List.mem_append.mp hc).elim (fun hc => (hhost.inner c hc).1)
        (hsegs.trimmed.visible c))⟩⟩
  rw [joinedText_authority hsegs.slash_not_mem htext_ne htext_no, htext] at hs
  rw [hends.parse_append hscheme hs hvisible, parseBehindScheme_file hk, List.cons_append,
    List.cons_append, List.append_assoc, ← slashed_append]
  rw [hcons] at hjoin hdrop ⊢
  refine (parseFile_host hjoin hhost hne hread hlocal hseg_drive).trans ?_
  rw [hdrop]

/-- **A path behind a file URL is put behind its path**, if that does not begin with a drive letter
behind a host. -/
theorem parse_joined_file {host : List Char} (hhost : IsHost host)
    (hread : host ≠ [] → parseDomainHost host = .ok host ∧ host ≠ "localhost".toList)
    (hdrive : host ≠ [] → ∀ seg ∈ segs.head?, isDriveLetter seg = false)
    (hs : s.toList = joinedText scheme (some ⟨[], host, none⟩) (slashed segs) ends) :
    parse s = .ok (assemble .file scheme (some ⟨[], host, none⟩)
      (slashed (trimmed segs ++ ends)) []) := by
  rcases eq_or_ne host [] with rfl | hne
  · exact parse_joined_bare hscheme hk hsegs hfront hends hs
  · obtain ⟨hdomain, hlocal⟩ := hread hne
    exact parse_joined_host hscheme hk hsegs hfront hends hhost hne hdomain hlocal (hdrive hne) hs

end File

end TeamSync.Url
