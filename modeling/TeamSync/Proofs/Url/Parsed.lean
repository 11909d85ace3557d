import TeamSync.Proofs.Url.Reading

/-!
What texts are read as. A URL is made of a scheme, an authority and a path as they are written, and
of a query and a fragment where a text has the characters that begin one.
-/

namespace TeamSync.Url

open Text

variable {scheme cs : List Char} {c : Char} {k : SchemeKind} {u : Url}

/-! ### Queries and fragments -/

/-- What follows a path is nothing, or a query or a fragment. -/
lemma eq_nil_of_queryAndFragment {rest : List Char} (hrest : ∀ c ∈ rest.head?, isPathChar c = false)
    (hq : (queryAndFragment k rest).1 = none) (hf : (queryAndFragment k rest).2 = none) :
    rest = [] := by
  cases rest with
  | nil => rfl
  | cons c cs =>
    have hc := hrest c rfl
    simp only [isPathChar, Bool.and_eq_false_iff, decide_eq_false_iff_not, not_not,
      ne_eq] at hc
    rcases hc with rfl | rfl
    · simp [queryAndFragment] at hq
    · simp [queryAndFragment] at hf

lemma head?_dropWhile_isPathChar (cs : List Char) :
    ∀ c ∈ (cs.dropWhile isPathChar).head?, isPathChar c = false := by
  intro c hc
  have := List.head?_dropWhile_not isPathChar cs
  rw [hc] at this
  simpa using this

/-- A URL without query and fragment is read from a path alone. -/
lemma eq_nil_of_assemble {a : Option Authority} {path rest : List Char}
    (hrest : ∀ c ∈ rest.head?, isPathChar c = false)
    (hq : (assemble k scheme a path rest).query = none)
    (hf : (assemble k scheme a path rest).fragment = none) : rest = [] := by
  rw [assemble] at hq hf
  exact eq_nil_of_queryAndFragment hrest (Option.map_eq_none_iff.mp hq)
    (Option.map_eq_none_iff.mp hf)

/-! ### URLs with an authority -/

/-- The path behind an authority. -/
def pathBehind (k : SchemeKind) (body : List Char) : List Char :=
  if body.isEmpty ∧ k = .other then [] else (Path.ofText k (dropSlash k body)).text k

lemma parseWithAuthority_eq_ok (h : parseWithAuthority k scheme cs = .ok u) :
    ∃ a left followed rest, rest = left ++ cs.dropWhile (!endsAuthority k ·) ∧
      parseAuthority k scheme (cs.takeWhile (!endsAuthority k ·)) followed = .ok (a, left) ∧
      u = assemble k scheme (some a) (pathBehind k (rest.takeWhile isPathChar))
        (rest.dropWhile isPathChar) := by
  simp only [parseWithAuthority, bind, Except.bind] at h
  split at h
  · cases h
  · next al hal =>
    obtain ⟨a, left⟩ := al
    cases h
    exact ⟨a, left, _, _, rfl, hal, rfl⟩

/-- A path that is read is written as segments, other than a file path. -/
lemma segments_ofText (hk : k ≠ .file) (cs : List Char) :
    Segments k (Path.ofText k cs).segments.reverse := fun seg hseg =>
  have ⟨hs, hdot⟩ := Path.settled_ofText k cs seg (List.mem_reverse.mp hseg)
  ⟨hs, hdot hk⟩

/-- A path behind an authority is written as segments, other than a file path. -/
lemma exists_pathBehind (hk : k ≠ .file) (body : List Char) :
    ∃ segs, pathBehind k body = slashed segs ∧ Segments k segs := by
  rw [pathBehind]
  split
  · exact ⟨[], rfl, fun _ hs => absurd hs List.not_mem_nil⟩
  · exact ⟨_, Path.text_eq hk _, segments_ofText hk _⟩

/-! ### URLs without a host -/

lemma isOpaque_encode {body : List Char} (h : ∀ c ∈ body, isPathChar c = true)
    (hhead : body.head? ≠ some '/') : IsOpaque (encode controlSet body) := by
  have hesc : ∀ c ∈ escapeChars, isPathChar c = true := by decide
  refine ⟨fun c => keeps_of_mem_encode keepsEscapes_controlSet, fun c hc => ?_, ?_⟩
  · rcases mem_encode hc with ⟨hmem, -⟩ | hmem
    · exact h c hmem
    · exact hesc c hmem
  · cases body with
    | nil => exact hhead
    | cons c cs =>
      rw [encode, List.flatMap_cons, encodeChar]
      split
      · obtain ⟨b, bs, hb⟩ := List.exists_cons_of_ne_nil (String.utf8EncodeChar_ne_nil (c := c))
        rw [hb, List.flatMap_cons, encodeByte]
        simp
      · simpa using hhead

/-- A path without a host is written as segments, or it is not hierarchical. -/
lemma parseWithoutAuthority_cases (scheme cs : List Char) :
    ∃ path, parseWithoutAuthority scheme cs =
        assemble .other scheme none path (cs.dropWhile isPathChar) ∧
      ((∃ segs, path = slashed segs ∧ Segments .other segs) ∨ IsOpaque path) := by
  rw [parseWithoutAuthority]
  split
  · exact ⟨_, rfl, .inl ⟨_, Path.text_eq (by decide) _, segments_ofText (by decide) _⟩⟩
  · next body hno =>
    refine ⟨_, rfl, .inr (isOpaque_encode (fun c hc => List.mem_takeWhile_imp hc) fun hhead => ?_)⟩
    obtain ⟨r, hr⟩ := List.head?_eq_some_iff.mp hhead
    exact hno r hr

/-! ### File URLs -/

lemma fileHost_eq_ok {host rest : List Char} (h : fileHost cs = .ok (host, rest)) :
    host = [] ∨ (∃ text, parseDomainHost text = .ok host) ∧ host ≠ "localhost".toList := by
  rw [fileHost] at h
  simp only at h
  split at h
  · cases h; exact .inl rfl
  · simp only [bind, Except.bind] at h
    split at h
    · cases h
    · next host' hhost =>
      split at h
      · cases h; exact .inl rfl
      · next hne => cases h; exact .inr ⟨⟨_, hhost⟩, hne⟩

/-- The host of a file URL is missing or is a domain, and its path is settled. -/
lemma fileParts_eq_ok {host : List Char} {path : Path} (h : fileParts cs = .ok (host, path)) :
    (host = [] ∨ (∃ text, parseDomainHost text = .ok host) ∧ host ≠ "localhost".toList) ∧
      path.Settled .file := by
  have hpath := Path.settled_ofText .file
  rw [fileParts] at h
  split at h
  · cases h; exact ⟨.inl rfl, hpath _⟩
  · simp only [bind, Except.bind] at h
    split at h
    · cases h
    · next hr hhr =>
      obtain ⟨host', rest⟩ := hr
      have hhost := fileHost_eq_ok hhr
      simp only at h
      split at h
      · cases h; exact ⟨.inl rfl, hpath _⟩
      · cases h
        refine ⟨?_, hpath _⟩
        split
        · exact .inl rfl
        · exact hhost

lemma parseFile_eq_ok (h : parseFile scheme cs = .ok u) :
    ∃ host path, fileParts cs = .ok (host, path) ∧
      u = assemble .file scheme (some ⟨[], host, none⟩) (path.text .file)
        (counting (cs.dropWhile isPathChar)) := by
  simp only [parseFile, bind, Except.bind] at h
  split at h
  · cases h
  · next hp hhp =>
    obtain ⟨host, path⟩ := hp
    cases h
    exact ⟨host, path, hhp, rfl⟩

/-! ### Whole texts -/

lemma mem_dropWhile {p : Char → Bool} (hc : c ∈ cs) (hp : p c = false) : c ∈ cs.dropWhile p := by
  rw [← List.takeWhile_append_dropWhile (p := p) (l := cs), List.mem_append] at hc
  refine hc.resolve_left fun htake => ?_
  have := List.mem_takeWhile_imp htake
  rw [hp] at this
  exact Bool.noConfusion this

lemma mem_trimOuter (hc : c ∈ cs) (hvis : 0x20 < c.toNat) : c ∈ trimOuter cs := by
  have hp : decide (c.toNat ≤ 0x20) = false := by simpa using hvis
  exact List.mem_reverse.mpr (mem_dropWhile (List.mem_reverse.mpr (mem_dropWhile hc hp)) hp)

/-- The part of a text in which a query or a fragment may begin. -/
def HoldsEnds (cs r : List Char) : Prop := ∀ c ∈ cs, isPathChar c = false → c ∈ r

/-- The ways in which a text is read by its scheme. -/
inductive ReadAs (scheme cs : List Char) (u : Url) : Prop where
  | file {r : List Char} (hk : schemeKind scheme = .file) (hr : HoldsEnds cs r)
      (h : parseFile scheme r = .ok u)
  | authority {k : SchemeKind} {r : List Char} (hk : schemeKind scheme = k) (hf : k ≠ .file)
      (hr : HoldsEnds cs r) (h : parseWithAuthority k scheme r = .ok u)
  | path {r : List Char} (hk : schemeKind scheme = .other) (hr : HoldsEnds cs r)
      (h : parseWithoutAuthority scheme r = u)

/-- The characters that begin a query or a fragment. -/
lemma ends_cases (h : isPathChar c = false) : c = '?' ∨ c = '#' := by
  simp only [isPathChar, Bool.and_eq_false_iff, decide_eq_false_iff_not, not_not, ne_eq] at h
  exact h

lemma scheme?_eq_some {R : List Char} (h : scheme? cs = some (scheme, R)) :
    ∃ front, cs = front ++ ':' :: R ∧ ∀ c ∈ front, isSchemeChar c = true := by
  match cs, h with
  | d :: ds, h =>
    rw [scheme?] at h
    split at h
    · split at h
      · next hdrop =>
        cases h
        have hsplit := List.takeWhile_append_dropWhile (p := isSchemeChar) (l := d :: ds)
        rw [hdrop] at hsplit
        exact ⟨_, hsplit.symm, fun c hc => List.mem_takeWhile_imp hc⟩
      · cases h
    · cases h

lemma isPathChar_of_isSchemeChar (h : isSchemeChar c = true) : isPathChar c = true := by
  by_contra hp
  rcases ends_cases (Bool.eq_false_iff.mpr hp) with rfl | rfl <;> exact absurd h (by decide)

lemma mem_counting (hc : c ∈ cs) (hp : isPathChar c = false) : c ∈ counting cs := by
  refine List.mem_filter.mpr ⟨hc, ?_⟩
  rcases ends_cases hp with rfl | rfl <;> decide

section Scheme

variable {front R : List Char} (hfront : counting cs = front ++ ':' :: R)
  (hchars : ∀ c ∈ front, isSchemeChar c = true)
include hfront hchars

/-- What stands behind the scheme holds all that may begin a query or a fragment. -/
lemma holdsEnds_behind : HoldsEnds cs R := by
  intro c hc hp
  have hmem := mem_counting hc hp
  rw [hfront, List.mem_append, List.mem_cons] at hmem
  rcases hmem with hmem | rfl | hmem
  · rw [isPathChar_of_isSchemeChar (hchars c hmem)] at hp
    exact Bool.noConfusion hp
  · exact absurd hp (by decide)
  · exact hmem

/-- What stands behind the first colon holds it too, in the text as it was given. -/
lemma holdsEnds_raw : HoldsEnds cs ((cs.dropWhile (· ≠ ':')).drop 1) := by
  have hcolon : ':' ∈ cs := List.mem_of_mem_filter (p := (!isIgnored ·))
    (show ':' ∈ counting cs by rw [hfront]; simp)
  obtain ⟨before, behind, rfl, hbefore⟩ := List.eq_append_cons_of_mem hcolon
  have hnot : ∀ c ∈ before, c ≠ ':' := fun c hc heq => hbefore (heq ▸ hc)
  have hcut : ((before ++ ':' :: behind).dropWhile (· ≠ ':')).drop 1 = behind := by
    rw [(takeWhile_colon hnot behind).2]; rfl
  -- the characters that count before the first colon are those of the scheme
  have hscheme : counting before = front := by
    have hcount : counting (before ++ ':' :: behind) =
        counting before ++ ':' :: counting behind := by
      rw [counting, List.filter_append]; rfl
    have hbefore' : ∀ c ∈ counting before, c ≠ ':' := fun c hc => hnot c (List.mem_of_mem_filter hc)
    have hfront' : ∀ c ∈ front, c ≠ ':' := fun c hc => (schemeChar_cases (hchars c hc)).2.1
    rw [← (takeWhile_colon hbefore' (counting behind)).1, ← hcount, hfront,
      (takeWhile_colon hfront' R).1]
  rw [hcut]
  intro c hc hp
  rw [List.mem_append, List.mem_cons] at hc
  rcases hc with hc | rfl | hc
  · rw [isPathChar_of_isSchemeChar (hchars c (hscheme ▸ mem_counting hc hp))] at hp
    exact Bool.noConfusion hp
  · exact absurd hp (by decide)
  · exact hc

end Scheme

/-- **Every URL is read in one of these ways.** -/
theorem readAs_of_parse {s : String} (h : parse s = .ok u) :
    ∃ scheme, IsScheme scheme ∧ ReadAs scheme s.toList u := by
  rw [parse] at h
  split at h
  · cases h
  · next scheme rest hscheme =>
    obtain ⟨front, hfront, hchars⟩ := scheme?_eq_some hscheme
    have hrest := holdsEnds_behind hfront hchars
    have hraw := holdsEnds_raw hfront hchars
    have hends {r : List Char} (hr : HoldsEnds (trimOuter s.toList) r) : HoldsEnds s.toList r := by
      intro c hc hp
      refine hr c (mem_trimOuter hc ?_) hp
      rcases ends_cases hp with rfl | rfl <;> decide
    refine ⟨scheme, isScheme_of_scheme? hscheme, ?_⟩
    split at h
    · next hk => exact .file hk (hends hraw) h
    · next hk =>
      refine .authority hk (by decide) (hends fun c hc hp => mem_dropWhile (hrest c hc hp) ?_) h
      rcases ends_cases hp with rfl | rfl <;> decide
    · next hk =>
      split at h
      · next r =>
        refine .authority hk (by decide) (hends fun c hc hp => ?_) h
        have := hrest c hc hp
        simp only [List.mem_cons] at this
        rcases this with rfl | rfl | this
        · exact absurd hp (by decide)
        · exact absurd hp (by decide)
        · exact this
      · exact .path hk (hends hrest) (Except.ok.inj h)

lemma forall_of_parseWithAuthority {r : List Char} (h : parseWithAuthority k scheme r = .ok u)
    (hq : u.query = none) (hf : u.fragment = none) : ∀ c ∈ r, isPathChar c = true := by
  obtain ⟨a, left, followed, rest, hrest, -, rfl⟩ := parseWithAuthority_eq_ok h
  have hnil := eq_nil_of_assemble (head?_dropWhile_isPathChar rest) hq hf
  have hall := List.dropWhile_eq_nil_iff.mp hnil
  intro c hc
  rw [← List.takeWhile_append_dropWhile (p := (!endsAuthority k ·)) (l := r), List.mem_append] at hc
  rcases hc with hc | hc
  · have hends := List.mem_takeWhile_imp hc
    by_contra hp
    rcases ends_cases (Bool.eq_false_iff.mpr hp) with rfl | rfl <;> simp [endsAuthority] at hends
  · exact hall c (hrest ▸ List.mem_append_right _ hc)

lemma forall_of_parseFile {r : List Char} (h : parseFile scheme r = .ok u)
    (hq : u.query = none) (hf : u.fragment = none) : ∀ c ∈ r, isPathChar c = true := by
  obtain ⟨host, path, -, rfl⟩ := parseFile_eq_ok h
  have hhead := head?_dropWhile_isPathChar r
  refine List.dropWhile_eq_nil_iff.mp ?_
  cases hdrop : r.dropWhile isPathChar with
  | nil => rfl
  | cons d ds =>
    -- what begins a query or a fragment counts
    have hd := hhead d (by rw [hdrop]; rfl)
    have hcount : counting (d :: ds) = d :: counting ds := by
      refine List.filter_cons_of_pos ?_
      rcases ends_cases hd with rfl | rfl <;> decide
    rw [hdrop, hcount] at hq hf
    have hends : ∀ c ∈ (d :: counting ds).head?, isPathChar c = false := by
      rintro c ⟨⟩
      exact hd
    exact absurd (eq_nil_of_assemble hends hq hf) (List.cons_ne_nil _ _)

/-- **A text in which a query or a fragment begins is not read without both.** -/
theorem isPathChar_of_parse {s : String} (h : parse s = .ok u) (hq : u.query = none)
    (hf : u.fragment = none) : ∀ c ∈ s.toList, isPathChar c = true := by
  obtain ⟨scheme, -, hread⟩ := readAs_of_parse h
  have hends {r : List Char} (hr : HoldsEnds s.toList r) (hall : ∀ c ∈ r, isPathChar c = true) :
      ∀ c ∈ s.toList, isPathChar c = true := by
    intro c hc
    by_contra hp
    exact hp (hall c (hr c hc (Bool.eq_false_iff.mpr hp)))
  cases hread with
  | file hk hr h => exact hends hr (forall_of_parseFile h hq hf)
  | authority hk hfile hr h => exact hends hr (forall_of_parseWithAuthority h hq hf)
  | path hk hr h =>
    obtain ⟨path, heq, -⟩ := parseWithoutAuthority_cases scheme ‹_›
    subst h
    rw [heq] at hq hf
    exact hends hr (List.dropWhile_eq_nil_iff.mp
      (eq_nil_of_assemble (head?_dropWhile_isPathChar _) hq hf))

end TeamSync.Url
