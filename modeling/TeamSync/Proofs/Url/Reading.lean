import TeamSync.Proofs.Url.Authority

/-!
Written URLs are read back. A scheme and what is written behind it, be it an authority and a path, a
path alone or an opaque path, are read as these parts.
-/

namespace TeamSync.Url

open Text

variable {scheme R : List Char} {c : Char} {k : SchemeKind}

/-! ### Schemes -/

/-- A scheme as it is written. -/
structure IsScheme (scheme : List Char) : Prop where
  head : ∃ c cs, scheme = c :: cs ∧ c.isAlpha = true
  chars : ∀ c ∈ scheme, isSchemeChar c = true
  lower : scheme.map Char.toLower = scheme

lemma toNat_lt_of_isSchemeChar (h : isSchemeChar c = true) : c.toNat < 0x80 := by
  simp only [isSchemeChar, Char.isAlphanum, Bool.or_eq_true, decide_eq_true_eq] at h
  rcases h with (((halpha | hdigit) | rfl) | rfl) | rfl
  · have := (range_of_isAlpha halpha).2
    omega
  · have hle := (Char.isDigit_iff_toNat.mp hdigit).2
    have hnine : '9'.toNat = 0x39 := rfl
    omega
  all_goals decide

/-- The characters of a scheme by their number. -/
lemma schemeChar_cases (h : isSchemeChar c = true) :
    0x20 < c.toNat ∧ c ≠ ':' ∧ isSchemeChar c.toLower = true ∧ c.toLower.toLower = c.toLower ∧
      (c.isAlpha = true → c.toLower.isAlpha = true) := by
  have hlt := toNat_lt_of_isSchemeChar h
  revert h
  refine of_toNat_lt hlt ?_
  decide +kernel

lemma isSchemeChar_of_isAlpha (h : c.isAlpha = true) : isSchemeChar c = true := by
  simp [isSchemeChar, Char.isAlphanum, h]

lemma isSchemeChar_colon : isSchemeChar ':' = false := by decide

lemma takeWhile_schemeChar (h : ∀ c ∈ scheme, isSchemeChar c = true) :
    (scheme ++ ':' :: R).takeWhile isSchemeChar = scheme ∧
      (scheme ++ ':' :: R).dropWhile isSchemeChar = ':' :: R := by
  rw [List.takeWhile_append_of_pos h, List.dropWhile_append_of_pos h]
  simp [isSchemeChar_colon]

/-- What is read as a scheme is one as it is written. -/
lemma isScheme_of_scheme? {cs : List Char} (h : scheme? cs = some (scheme, R)) :
    IsScheme scheme := by
  match cs, h with
  | c :: cs, h =>
    rw [scheme?] at h
    split at h
    · next halpha =>
      split at h
      · next rest hdrop =>
        cases h
        have hc := isSchemeChar_of_isAlpha halpha
        have hall : ∀ d ∈ (c :: cs).takeWhile isSchemeChar, isSchemeChar d = true :=
          fun d hd => List.mem_takeWhile_imp hd
        refine ⟨?_, fun d hd => ?_, ?_⟩
        · rw [List.takeWhile_cons_of_pos hc, List.map_cons]
          exact ⟨_, _, rfl, (schemeChar_cases hc).2.2.2.2 halpha⟩
        · obtain ⟨e, he, rfl⟩ := List.mem_map.mp hd
          exact (schemeChar_cases (hall e he)).2.2.1
        · rw [List.map_map]
          exact List.map_congr_left fun d hd => (schemeChar_cases (hall d hd)).2.2.2.1
      · cases h
    · cases h

/-- **A written scheme is read as itself.** -/
theorem IsScheme.scheme?_eq (h : IsScheme scheme) :
    scheme? (scheme ++ ':' :: R) = some (scheme, R) := by
  obtain ⟨htake, hdrop⟩ := takeWhile_schemeChar (R := R) h.chars
  obtain ⟨c, cs, rfl, halpha⟩ := h.head
  rw [List.cons_append] at htake hdrop ⊢
  rw [scheme?, if_pos halpha, hdrop, htake]
  simp only [h.lower]

/-! ### The text of a URL -/

/-- A URL by what stands behind its scheme. -/
def parseBehindScheme (scheme R : List Char) : Except ParseError Url :=
  match schemeKind scheme with
  | .file => parseFile scheme R
  | .special => parseWithAuthority .special scheme (R.dropWhile (isSlash .special))
  | .other =>
    match R with
    | '/' :: '/' :: r => parseWithAuthority .other scheme r
    | r => .ok (parseWithoutAuthority scheme r)

lemma trimOuter_of_visible {cs : List Char} (hhead : ∀ c ∈ cs.head?, 0x20 < c.toNat)
    (hlast : ∀ c ∈ cs.getLast?, 0x20 < c.toNat) : trimOuter cs = cs := by
  have hdrop {ds : List Char} (h : ∀ c ∈ ds.head?, 0x20 < c.toNat) :
      ds.dropWhile (fun c => decide (c.toNat ≤ 0x20)) = ds := by
    cases ds with
    | nil => rfl
    | cons d ds =>
      have hd : ¬decide (d.toNat ≤ 0x20) = true := by
        have := h d rfl
        simp; omega
      rw [List.dropWhile_cons, if_neg hd]
  have hrev : ∀ c ∈ cs.reverse.head?, 0x20 < c.toNat := by rwa [List.head?_reverse]
  simp only [trimOuter, hdrop hhead, hdrop hrev, List.reverse_reverse]

/-- **A text without blanks at its ends is read by its scheme.** -/
theorem parse_eq {s : String} (hs : s.toList = scheme ++ ':' :: R) (h : IsScheme scheme)
    (hR : ∀ c ∈ R, 0x20 ≤ c.toNat) (hlast : ∀ c ∈ s.toList.getLast?, 0x20 < c.toNat) :
    parse s = parseBehindScheme scheme R := by
  have hhead : ∀ c ∈ s.toList.head?, 0x20 < c.toNat := by
    obtain ⟨c, cs, hc, halpha⟩ := h.head
    rw [hs, hc]
    rintro d ⟨⟩
    exact (schemeChar_cases (isSchemeChar_of_isAlpha halpha)).1
  have hcount : counting s.toList = s.toList := by
    refine counting_of_forall fun c hc => isIgnored_of_le ?_
    rw [hs, List.mem_append, List.mem_cons] at hc
    rcases hc with hc | rfl | hc
    · exact Nat.le_of_lt (schemeChar_cases (h.chars c hc)).1
    · decide
    · exact hR c hc
  have hfile : (s.toList.dropWhile (· ≠ ':')).drop 1 = R := by
    have hall : ∀ c ∈ scheme, decide (c ≠ ':') = true := fun c hc =>
      decide_eq_true (schemeChar_cases (h.chars c hc)).2.1
    rw [hs, List.dropWhile_append_of_pos hall]
    simp
  rw [parse]
  simp only [trimOuter_of_visible hhead hlast, hcount, hfile]
  simp only [hs, h.scheme?_eq]
  rfl

/-! ### What follows a scheme -/

/-- Segments without dots that a path is written with. -/
def Segments (k : SchemeKind) (segs : List (List Char)) : Prop :=
  ∀ seg ∈ segs, IsSegment k seg ∧ isDot seg = false

variable {segs : List (List Char)} {seg : List Char} {a : Authority}

lemma isPathChar_of_keeps (h : pathSet.Keeps c) : isPathChar c = true := by
  have hq : c ≠ '?' := by rintro rfl; exact absurd h.2.2 (by decide)
  have hh : c ≠ '#' := by rintro rfl; exact absurd h.2.2 (by decide)
  simp [isPathChar, hq, hh]

lemma Segments.isPathChar (h : Segments k segs) : ∀ c ∈ slashed segs, isPathChar c = true := by
  intro c hc
  obtain ⟨seg, hseg, hc⟩ := mem_slashed.mp hc
  rcases hc with rfl | hc
  · decide
  · exact isPathChar_of_keeps ((h seg hseg).1.keeps c hc)

/-- A written path is a path, with nothing behind it. -/
lemma Segments.takeWhile (h : Segments k segs) :
    (slashed segs).takeWhile Url.isPathChar = slashed segs ∧
      (slashed segs).dropWhile Url.isPathChar = [] :=
  ⟨List.takeWhile_eq_self_iff.mpr h.isPathChar, List.dropWhile_eq_nil_iff.mpr h.isPathChar⟩

lemma dropSlash_cons (k : SchemeKind) (cs : List Char) : dropSlash k ('/' :: cs) = cs := by
  rw [dropSlash, next?_cons (by decide)]
  simp only [isSlash_slash, if_true]

/-- A path that begins with a slash is read as its segments, other than a file path. -/
lemma Segments.text_ofText (h : Segments k (seg :: segs)) (hk : k ≠ .file) :
    (Path.ofText k (seg ++ slashed segs)).text k = slashed (seg :: segs) := by
  rw [Path.ofText_slashed h fun hf => absurd hf hk, Path.text_eq hk, List.reverse_reverse]

lemma endsAuthority_of_mem (hc : c ∉ ['/', '\\', '?', '#']) : endsAuthority k c = false := by
  simp only [List.mem_cons, List.not_mem_nil, or_false, not_or] at hc
  simp [endsAuthority, isSlash, hc]

/-- An authority ends where a path begins. -/
lemma takeWhile_endsAuthority {text : List Char} (h : ∀ c ∈ text, endsAuthority k c = false)
    (segs : List (List Char)) :
    (text ++ slashed segs).takeWhile (!endsAuthority k ·) = text ∧
      (text ++ slashed segs).dropWhile (!endsAuthority k ·) = slashed segs := by
  have hall : ∀ c ∈ text, (!endsAuthority k c) = true := fun c hc => by rw [h c hc]; rfl
  have hslash : (!endsAuthority k '/') = false := by simp [endsAuthority, isSlash_slash]
  rw [List.takeWhile_append_of_pos hall, List.dropWhile_append_of_pos hall]
  cases segs with
  | nil => simp
  | cons seg segs => simp [hslash]

/-- **An authority and a path are read as they are written.** -/
theorem parseWithAuthority_eq (h : a.Settled k scheme) (hsegs : Segments k segs) (hk : k ≠ .file)
    (hne : k = .special → segs ≠ []) :
    parseWithAuthority k scheme (a.text ++ slashed segs) =
      .ok (assemble k scheme (some a) (slashed segs) []) := by
  have htext : ∀ c ∈ a.text, endsAuthority k c = false := fun c hc =>
    endsAuthority_of_mem (h.mem_text hc).2.2
  obtain ⟨htake, hdrop⟩ := takeWhile_endsAuthority htext segs
  obtain ⟨hbody, hrest⟩ := hsegs.takeWhile
  have hpath : (if (slashed segs).isEmpty = true ∧ k = .other then []
      else (Path.ofText k (dropSlash k (slashed segs))).text k) = slashed segs := by
    cases segs with
    | nil =>
      have hother : k = .other := by cases k <;> simp_all
      rw [if_pos ⟨rfl, hother⟩]; rfl
    | cons seg segs =>
      rw [if_neg (by simp), slashed_cons, List.cons_append, dropSlash_cons,
        hsegs.text_ofText hk]
      rfl
  simp only [parseWithAuthority, bind, Except.bind, htake, hdrop, h.parseAuthority_text,
    List.nil_append, hbody, hrest, hpath]
  rfl

/-- A path without a host is read as it is written, if it does not begin with two slashes. -/
lemma parseWithoutAuthority_slashed (hsegs : Segments .other (seg :: segs)) :
    parseWithoutAuthority scheme (slashed (seg :: segs)) =
      assemble .other scheme none (slashed (seg :: segs)) [] := by
  obtain ⟨hbody, hrest⟩ := hsegs.takeWhile
  rw [parseWithoutAuthority, hbody, hrest]
  have hpath := hsegs.text_ofText (by decide)
  rw [slashed_cons, List.cons_append] at hpath ⊢
  simp only [hpath]

/-- A step that stays where it is keeps two slashes apart from an authority. -/
lemma parseWithoutAuthority_dot (hsegs : Segments .other segs) (hne : segs ≠ []) :
    parseWithoutAuthority scheme ('/' :: '.' :: slashed segs) =
      assemble .other scheme none (slashed segs) [] := by
  have hdot : ∀ c ∈ ['/', '.'], isPathChar c = true := by decide
  have hbody : ('/' :: '.' :: slashed segs).takeWhile isPathChar = '/' :: '.' :: slashed segs ∧
      ('/' :: '.' :: slashed segs).dropWhile isPathChar = [] := by
    have happend : '/' :: '.' :: slashed segs = ['/', '.'] ++ slashed segs := rfl
    obtain ⟨htake, hdrop⟩ := hsegs.takeWhile
    rw [happend, List.takeWhile_append_of_pos hdot, List.dropWhile_append_of_pos hdot, htake, hdrop]
    exact ⟨rfl, rfl⟩
  have hdot' : ∀ c ∈ ['.'], isSlash .other c = false := by decide
  have hsplit : splitAt (isSlash .other) ('.' :: slashed segs) = ['.'] :: segs :=
    splitAt_slashed (isSlash_slash _) hdot' fun s hs => (hsegs s hs).1.whole
  have hread : Path.ofText .other ('.' :: slashed segs) = ⟨segs.reverse, false⟩ := by
    obtain ⟨seg, segs, rfl⟩ := List.exists_cons_of_ne_nil hne
    have hstep : Path.empty.read .other ['.'] false = Path.empty := rfl
    rw [Path.ofText, hsplit, Path.readAll, hstep, Path.readAll_eq hsegs (fun hk => by cases hk)]
    · exact congrArg (Path.mk · false) (List.append_nil _)
    · exact List.cons_ne_nil _ _
  rw [parseWithoutAuthority, hbody.1, hbody.2]
  simp only [hread, Path.text_eq (k := .other) (by decide), List.reverse_reverse]

/-- A path that is not hierarchical. -/
structure IsOpaque (cs : List Char) : Prop where
  keeps : ∀ c ∈ cs, controlSet.Keeps c
  whole : ∀ c ∈ cs, isPathChar c = true
  head : cs.head? ≠ some '/'

lemma parseWithoutAuthority_opaque {cs : List Char} (h : IsOpaque cs) :
    parseWithoutAuthority scheme cs = assemble .other scheme none cs [] := by
  rw [parseWithoutAuthority, List.takeWhile_eq_self_iff.mpr h.whole,
    List.dropWhile_eq_nil_iff.mpr h.whole]
  split
  · exact absurd rfl h.head
  · rw [encode_of_keeps h.keeps]

/-! ### File URLs -/

lemma afterSlashes?_cons (cs : List Char) : afterSlashes? .file ('/' :: '/' :: cs) = some cs := by
  rw [afterSlashes?, next?_cons (by decide)]
  simp only [next?_cons (show isIgnored '/' = false by decide)]
  simp [isSlash_slash]

/-- A host is no drive letter. -/
lemma IsHost.isDriveLetter {host : List Char} (h : IsHost host) : isDriveLetter host = false := by
  match host, h with
  | [], _ => rfl
  | [_], _ => rfl
  | [a, b], h =>
    have hbar : b ≠ '|' := by
      rintro rfl
      exact absurd (h.inner '|' (by simp)).2.2 (by decide)
    have hcolon : b ≠ ':' := by
      rintro rfl
      rcases h.colons with ⟨inner, heq, -⟩ | ⟨hno, -⟩
      · have hlast : [a, ':'].getLast? = some ']' := by rw [heq, List.getLast?_concat]
        simp at hlast
      · exact hno (by simp)
    simp [Url.isDriveLetter, hbar, hcolon]
  | _ :: _ :: _ :: _, _ => rfl

/-- A file host that is written is read as it. -/
lemma fileHost_eq {host : List Char} (h : IsHost host) (hne : host ≠ [])
    (hread : parseDomainHost host = .ok host) (hlocal : host ≠ "localhost".toList) :
    fileHost (host ++ slashed segs) = .ok (host, slashed segs) := by
  have hends : ∀ c ∈ host, endsAuthority .file c = false := fun c hc =>
    endsAuthority_of_mem fun hmem => (h.inner c hc).2.2 (List.mem_append_left ['|', '@'] hmem)
  obtain ⟨htake, hdrop⟩ := takeWhile_endsAuthority hends segs
  have hcount : counting host = host := counting_of_forall fun c hc =>
    isIgnored_of_le (Nat.le_of_lt (h.inner c hc).1)
  have hnot : ¬(host.isEmpty = true ∨ isDriveLetter host = true) := by
    simp [hne, h.isDriveLetter]
  simp only [fileHost, htake, hdrop, hcount, if_neg hnot, bind, Except.bind, hread, if_neg hlocal]
  rfl

lemma parseFile_eq {cs host : List Char} {path : Path} (h : fileParts cs = .ok (host, path))
    (hrest : cs.dropWhile isPathChar = []) :
    parseFile scheme cs =
      .ok (assemble .file scheme (some ⟨[], host, none⟩) (path.text .file) []) := by
  simp only [parseFile, h, hrest, bind, Except.bind]
  rfl

section FilePath

variable (hsegs : Segments .file (seg :: segs))
include hsegs

lemma ofText_file (hdrive : isDriveLetter seg = false) :
    (Path.ofText .file (seg ++ slashed segs)).onDrive = false ∧
      (Path.ofText .file (seg ++ slashed segs)).text .file =
        slashed (Path.dropEmptyFront (seg :: segs)) := by
  rw [Path.ofText_slashed hsegs fun _ => hdrive, Path.text_file, List.reverse_reverse]
  exact ⟨rfl, rfl⟩

/-- A file URL with a host is read with that host and with the path behind it. -/
lemma parseFile_host {host : List Char} (h : IsHost host) (hne : host ≠ [])
    (hread : parseDomainHost host = .ok host) (hlocal : host ≠ "localhost".toList)
    (hdrive : isDriveLetter seg = false) :
    parseFile scheme ('/' :: '/' :: (host ++ slashed (seg :: segs))) =
      .ok (assemble .file scheme (some ⟨[], host, none⟩)
        (slashed (Path.dropEmptyFront (seg :: segs))) []) := by
  obtain ⟨hbody, hrest⟩ := hsegs.takeWhile
  obtain ⟨hoff, htext⟩ := ofText_file hsegs hdrive
  have hempty : host.isEmpty = false := List.isEmpty_eq_false_iff.mpr hne
  have hparts : fileParts ('/' :: '/' :: (host ++ slashed (seg :: segs))) =
      .ok (host, Path.ofText .file (seg ++ slashed segs)) := by
    rw [fileParts, afterSlashes?_cons]
    simp only [fileHost_eq h hne hread hlocal, bind, Except.bind, hbody, hempty]
    rw [slashed_cons, List.cons_append, dropSlash_cons]
    simp only [hoff, Bool.false_eq_true, if_false]
    rfl
  have hhost : ∀ c ∈ '/' :: '/' :: host, isPathChar c = true := by
    intro c hc
    simp only [List.mem_cons] at hc
    rcases hc with rfl | rfl | hc
    · decide
    · decide
    · have hno := (h.inner c hc).2.2
      simp only [List.mem_cons, List.not_mem_nil, or_false, not_or] at hno
      simp [isPathChar, hno]
  have happend : '/' :: '/' :: (host ++ slashed (seg :: segs)) =
      '/' :: '/' :: host ++ slashed (seg :: segs) := rfl
  rw [parseFile_eq hparts (by rw [happend, List.dropWhile_append_of_pos hhost, hrest]), htext]

/-- A file URL with an empty host is read with the path behind it. -/
lemma parseFile_slashes :
    parseFile scheme ('/' :: '/' :: slashed (seg :: segs)) =
      .ok (assemble .file scheme (some ⟨[], [], none⟩)
        (slashed (Path.dropEmptyFront (seg :: segs))) []) := by
  obtain ⟨hbody, hrest⟩ := hsegs.takeWhile
  have hall : Segments .file ([] :: seg :: segs) :=
    List.forall_mem_cons.mpr ⟨⟨isSegment_nil _, Path.isDot_nil⟩, hsegs⟩
  have hhost : fileHost (slashed (seg :: segs)) = .ok ([], slashed (seg :: segs)) := by
    have htake : (slashed (seg :: segs)).takeWhile (!endsAuthority .file ·) = [] := by
      simp [endsAuthority, isSlash_slash]
    rw [fileHost, htake]
    rfl
  have hparts : fileParts ('/' :: '/' :: slashed (seg :: segs)) =
      .ok ([], Path.ofText .file ([] ++ slashed (seg :: segs))) := by
    rw [fileParts, afterSlashes?_cons]
    simp only [hhost, bind, Except.bind, hbody]
    rfl
  have hslashes : ∀ c ∈ ['/', '/'], isPathChar c = true := by decide
  have happend : '/' :: '/' :: slashed (seg :: segs) = ['/', '/'] ++ slashed (seg :: segs) := rfl
  rw [parseFile_eq hparts (by rw [happend, List.dropWhile_append_of_pos hslashes, hrest]),
    (ofText_file hall rfl).2]
  rfl

/-- A file URL that is a path alone is read with that path. -/
lemma parseFile_slashed (hne : seg ≠ []) (hdrive : isDriveLetter seg = false) :
    parseFile scheme (slashed (seg :: segs)) =
      .ok (assemble .file scheme (some ⟨[], [], none⟩) (slashed (seg :: segs)) []) := by
  obtain ⟨hbody, hrest⟩ := hsegs.takeWhile
  obtain ⟨c, cs, rfl⟩ := List.exists_cons_of_ne_nil hne
  have hc := (hsegs (c :: cs) List.mem_cons_self).1
  have hafter : afterSlashes? .file (slashed ((c :: cs) :: segs)) = none := by
    have hignored := hc.isIgnored_eq_false c List.mem_cons_self
    have hslash := hc.whole c List.mem_cons_self
    rw [slashed_cons, List.cons_append, List.cons_append, afterSlashes?, next?_cons (by decide)]
    simp only [next?_cons hignored, hslash, Bool.false_eq_true, and_false, if_false]
  have hparts : fileParts (slashed ((c :: cs) :: segs)) =
      .ok ([], Path.ofText .file (c :: cs ++ slashed segs)) := by
    rw [fileParts, hafter]
    simp only [hbody]
    rw [slashed_cons, List.cons_append, dropSlash_cons]
  rw [parseFile_eq hparts hrest, (ofText_file hsegs hdrive).2]
  rfl

end FilePath

end TeamSync.Url
