import TeamSync.Proofs.Requests
import TeamSync.Proofs.Url.Joined

/-!
Base URLs. The URLs of the endpoints are the text of the base URL with a path behind it. They lead
below the base URL if it has neither query nor fragment, and only then.
-/

namespace TeamSync

open Text

namespace Url

/-! ### Below a URL -/

/-- The host of a URL; an empty one is none. -/
def hostName (u : Url) : Option String := u.host.filter (· ≠ "")

/-- Where a path leads below a URL: to the same scheme, host and port, and behind its path, with one
slash at the joint and nothing that follows. -/
structure IsBelow (u : Url) (path : String) (v : Url) : Prop where
  scheme : v.scheme = u.scheme
  host : v.hostName = u.hostName
  port : v.port = u.port
  joint : (dropTrailingSlashes u.path).toList.getLast? ≠ some '/' ∧
    path.toList.head? = some '/' ∧ path.toList.take 2 ≠ ['/', '/']
  path : v.path = dropTrailingSlashes u.path ++ path
  query : v.query = none
  fragment : v.fragment = none

variable {scheme front : List Char} {k : SchemeKind} {a b : Option Authority}
  {segs ends : List (List Char)} {s path : String} {u : Url}

lemma SameHost.hostName_eq (h : SameHost b a) (cs ds : List Char) :
    (assemble k scheme b cs []).hostName = (assemble k scheme a ds []).hostName := by
  rcases h with rfl | ⟨rfl, rfl⟩ <;> rfl

lemma SameHost.port_eq (h : SameHost b a) (cs ds : List Char) :
    (assemble k scheme b cs []).port = (assemble k scheme a ds []).port := by
  rcases h with rfl | ⟨rfl, rfl⟩ <;> rfl

lemma isBelow_assemble (h : SameHost b a) (hends : IsEndpoint ends)
    (hpath : path.toList = slashed ends) :
    (assemble k scheme a front []).IsBelow path
      (assemble k scheme b (dropEndWhile (· == '/') front ++ slashed ends) []) where
  scheme := rfl
  host := h.hostName_eq _ _
  port := h.port_eq _ _
  joint := by
    obtain ⟨seg, segs, rfl, hseg, -⟩ := hends.head
    have hslash := (hends.segments .other).slash_not_mem seg List.mem_cons_self
    rw [hpath]
    exact ⟨(dropTrailingSlashes_append _).2, rfl, take_slashed hseg hslash⟩
  path := by
    apply String.toList_inj.mp
    simp [assemble, dropTrailingSlashes, hpath]
  query := rfl
  fragment := rfl

/-! ### URLs in their written form -/

/-- The segments of a path that begins with a slash. -/
def segmentsOf (path : List Char) : List (List Char) := (splitAt (· = '/') path).drop 1

lemma segmentsOf_slashed (h : ∀ seg ∈ segs, '/' ∉ seg) : segmentsOf (slashed segs) = segs := by
  have hno : ∀ seg ∈ segs, ∀ c ∈ seg, decide (c = '/') = false := fun seg hseg c hc =>
    decide_eq_false fun heq => h seg hseg (heq ▸ hc)
  have hfirst : ∀ c ∈ [], decide (c = '/') = false := fun c hc => absurd hc List.not_mem_nil
  have hsplit : splitAt (· = '/') (slashed segs) = [] :: segs :=
    splitAt_slashed (by decide) hfirst hno
  rw [segmentsOf, hsplit, List.drop_one, List.tail_cons]

/-- What the standard gives every URL and the parser does not: marked labels that are not too long
to be read again, no dots in a file path, and no drive letter behind the host of one. -/
structure IsRegular (u : Url) : Prop where
  labels : schemeKind u.scheme.toList ≠ .other →
    ∀ host ∈ u.host, Domain.HasReadableLabels host.toList
  dots : schemeKind u.scheme.toList = .file →
    ∀ seg ∈ segmentsOf u.path.toList, isDot seg = false
  drive : schemeKind u.scheme.toList = .file → u.hostName ≠ none →
    ∀ seg ∈ (segmentsOf u.path.toList).head?, isDriveLetter seg = false

/-- Without the last of these a host may be lost when the URL is read again. -/
example : (parse "file://h//c|").map toText = .ok "file://h/c|" ∧
    (parse "file://h/c|/oauth2/token").map hostName = .ok none := by decide +kernel

lemma scheme_assemble (cs rest : List Char) :
    (assemble k scheme a cs rest).scheme.toList = scheme := String.toList_ofList

lemma path_assemble (cs rest : List Char) : (assemble k scheme a cs rest).path.toList = cs :=
  String.toList_ofList

namespace IsRegular

lemma labels_assemble {a : Authority} {cs rest : List Char}
    (h : (assemble k scheme (some a) cs rest).IsRegular) (hk : schemeKind scheme ≠ .other) :
    Domain.HasReadableLabels a.host := by
  have := h.labels (by rwa [scheme_assemble]) (String.ofList a.host) rfl
  rwa [String.toList_ofList] at this

/-- The path of a regular file URL is written as segments without dots. -/
lemma exists_segments {host rest : List Char} {p : Path}
    (h : (assemble .file scheme (some ⟨[], host, none⟩) (p.text .file) rest).IsRegular)
    (hk : schemeKind scheme = .file) (hp : p.Settled .file) :
    ∃ segs, p.text .file = slashed segs ∧ Segments .file segs ∧ Path.dropEmptyFront segs = segs ∧
      (host ≠ [] → ∀ seg ∈ segs.head?, isDriveLetter seg = false) := by
  have hsegment : ∀ seg ∈ Path.dropEmptyFront p.segments.reverse, IsSegment .file seg :=
    fun seg hseg => (hp seg (List.mem_reverse.mp (mem_of_mem_dropEmptyFront hseg))).1
  have hof : segmentsOf (p.text .file) = Path.dropEmptyFront p.segments.reverse := by
    rw [Path.text_file]
    exact segmentsOf_slashed fun seg hseg => slash_not_mem (hsegment seg hseg).whole
  have hkind : schemeKind (assemble .file scheme (some ⟨[], host, none⟩) (p.text .file)
      rest).scheme.toList = .file := by rwa [scheme_assemble]
  have hdots := h.dots hkind
  have hdrive := h.drive hkind
  rw [path_assemble, hof] at hdots hdrive
  refine ⟨_, Path.text_file p, fun seg hseg => ⟨hsegment seg hseg, hdots seg hseg⟩,
    dropEmptyFront_dropEmptyFront _, fun hne => hdrive ?_⟩
  simp [assemble, hostName, hne]

end IsRegular

/-- The host of a file URL is read as itself. -/
lemma isHost_of_file {host : List Char}
    (h : host = [] ∨ (∃ text, parseDomainHost text = .ok host) ∧ host ≠ "localhost".toList)
    (hlabels : Domain.HasReadableLabels host) :
    IsHost host ∧ (host ≠ [] → parseDomainHost host = .ok host ∧ host ≠ "localhost".toList) := by
  rcases h with rfl | ⟨⟨text, htext⟩, hlocal⟩
  · exact ⟨isHost_of_forall fun c hc => absurd hc List.not_mem_nil, fun hne => absurd rfl hne⟩
  · obtain ⟨hread, hhost, -⟩ := parseDomainHost_readBack htext hlabels
    exact ⟨hhost, fun _ => ⟨hread, hlocal⟩⟩

section Joined

variable (hreg : u.IsRegular) (hq : u.query = none) (hf : u.fragment = none)
  (hends : IsEndpoint ends) (hpath : path.toList = slashed ends)
  (hs : s.toList = dropEndWhile (· == '/') u.toText.toList ++ slashed ends)
include hreg hq hf hends hpath hs

lemma exists_below_authority {r : List Char} (hscheme : IsScheme scheme)
    (hk : schemeKind scheme = k) (hfile : k ≠ .file) (h : parseWithAuthority k scheme r = .ok u) :
    ∃ v, parse s = .ok v ∧ u.IsBelow path v := by
  obtain ⟨a, left, followed, rest, -, hauthority, rfl⟩ := parseWithAuthority_eq_ok h
  have hnil := eq_nil_of_assemble (head?_dropWhile_isPathChar rest) hq hf
  obtain ⟨segs, hsegs, hsettled⟩ := exists_pathBehind hfile (rest.takeWhile isPathChar)
  have hlabels (hspecial : k = .special) : Domain.HasReadableLabels a.host :=
    hreg.labels_assemble (by rw [hk, hspecial]; decide)
  have ha := settled_of_parseAuthority hauthority hlabels
  rw [hnil, hsegs] at hs ⊢
  rw [toText_assemble] at hs
  obtain ⟨b, hb, hread⟩ := parse_joined_authority hscheme hk hfile ha hsettled hends hs
  refine ⟨_, hread, ?_⟩
  rw [slashed_append, ← dropEndWhile_slashed hsettled.slash_not_mem]
  exact isBelow_assemble hb hends hpath

lemma exists_below_path {r : List Char} (hscheme : IsScheme scheme)
    (hk : schemeKind scheme = .other) (h : parseWithoutAuthority scheme r = u) :
    ∃ v, parse s = .ok v ∧ u.IsBelow path v := by
  obtain ⟨front, hfront, hshape⟩ := parseWithoutAuthority_cases scheme r
  rw [h] at hfront
  subst hfront
  have hnil := eq_nil_of_assemble (head?_dropWhile_isPathChar r) hq hf
  rw [hnil] at hs ⊢
  rw [toText_assemble] at hs
  rcases hshape with ⟨segs, rfl, hsegs⟩ | hopaque
  · refine ⟨_, parse_joined_rooted hscheme hk hsegs hends hs, ?_⟩
    rw [slashed_append, ← dropEndWhile_slashed hsegs.slash_not_mem]
    exact isBelow_assemble (.inl rfl) hends hpath
  · exact ⟨_, parse_joined_opaque hscheme hk hopaque hends hs,
      isBelow_assemble (.inl rfl) hends hpath⟩

lemma exists_below_file {r : List Char} (hscheme : IsScheme scheme)
    (hk : schemeKind scheme = .file) (h : parseFile scheme r = .ok u) :
    ∃ v, parse s = .ok v ∧ u.IsBelow path v := by
  have hnil : r.dropWhile isPathChar = [] :=
    List.dropWhile_eq_nil_iff.mpr (forall_of_parseFile h hq hf)
  obtain ⟨host, p, hparts, rfl⟩ := parseFile_eq_ok h
  obtain ⟨hhost, hp⟩ := fileParts_eq_ok hparts
  obtain ⟨hhost, hread⟩ := isHost_of_file hhost (hreg.labels_assemble (by rw [hk]; decide))
  obtain ⟨segs, htext, hsegs, hfront, hdrive⟩ := hreg.exists_segments hk hp
  have hcount : counting (r.dropWhile isPathChar) = [] := by rw [hnil]; rfl
  rw [hcount, htext] at hs ⊢
  rw [toText_assemble] at hs
  refine ⟨_, parse_joined_file hscheme hk hsegs hfront hends hhost hread hdrive hs, ?_⟩
  rw [slashed_append, ← dropEndWhile_slashed hsegs.slash_not_mem]
  exact isBelow_assemble (.inl rfl) hends hpath

/-- **A URL with neither query nor fragment leads below itself**, whatever its scheme. -/
theorem exists_below {t : String} (h : parse t = .ok u) :
    ∃ v, parse s = .ok v ∧ u.IsBelow path v := by
  obtain ⟨scheme, hscheme, hread⟩ := readAs_of_parse h
  cases hread with
  | file hk _ h => exact exists_below_file hreg hq hf hends hpath hs hscheme hk h
  | authority hk hfile _ h =>
    exact exists_below_authority hreg hq hf hends hpath hs hscheme hk hfile h
  | path hk _ h => exact exists_below_path hreg hq hf hends hpath hs hscheme hk h

end Joined

/-- A query or a fragment is still there behind what a URL is left with, and cuts off any path. -/
lemma eq_none_of_below {v : Url} {t : List Char}
    (hs : s.toList = dropEndWhile (· == '/') u.toText.toList ++ t) (h : parse s = .ok v)
    (hq : v.query = none) (hf : v.fragment = none) : u.query = none ∧ u.fragment = none := by
  have hall := isPathChar_of_parse h hq hf
  have hmem {c : Char} (hc : c ∈ u.toText.toList) (hslash : c ≠ '/') : c ∈ s.toList := by
    obtain ⟨⟨n, hn⟩, -⟩ := dropTrailingSlashes_append u.toText
    rw [hn, List.mem_append] at hc
    rw [hs]
    refine List.mem_append_left _ (hc.elim (fun hc => ?_) fun hc => ?_)
    · rwa [dropTrailingSlashes, String.toList_ofList] at hc
    · exact absurd (List.eq_of_mem_replicate hc) hslash
  constructor
  · refine Option.eq_none_iff_forall_ne_some.mpr fun q hq => ?_
    have := hall '?' (hmem (by simp [toText, hq]) (by decide))
    exact absurd this (by decide)
  · refine Option.eq_none_iff_forall_ne_some.mpr fun f hf => ?_
    have := hall '#' (hmem (by simp [toText, hf]) (by decide))
    exact absurd this (by decide)

end Url

/-! ### Endpoints -/

namespace Endpoints

/-- The URLs below a base URL, each with its path: that of the token endpoint and those of all
operations. -/
def targets (e : Endpoints) : List (String × String) :=
  (e.tokenUrl, tokenPath) :: Operation.all.map fun op => (e.url op, op.path)

variable {e : Endpoints} {t : String × String}

lemma eq_append_of_mem_targets (h : t ∈ e.targets) : t.1 = e.base ++ t.2 := by
  simp only [targets, List.mem_cons, List.mem_map] at h
  rcases h with rfl | ⟨op, -, rfl⟩ <;> rfl

/-- The path of every endpoint can be put behind a URL. -/
lemma isEndpoint_of_mem_targets (h : t ∈ e.targets) :
    ∃ ends, t.2.toList = slashed ends ∧ Url.IsEndpoint ends := by
  have hall : ∀ path ∈ tokenPath :: Operation.all.map Operation.path,
      path.toList = slashed (Url.segmentsOf path.toList) ∧
      (∀ seg ∈ Url.segmentsOf path.toList, (∀ c ∈ seg,
        Url.pathSet.Keeps c ∧ c ≠ '/' ∧ c ≠ '\\') ∧ Url.isDot seg = false) ∧
      ∃ seg ∈ (Url.segmentsOf path.toList).head?, seg ≠ [] ∧ Url.isDriveLetter seg = false := by
    decide +kernel
  have hmem : t.2 ∈ tokenPath :: Operation.all.map Operation.path := by
    simp only [targets, List.mem_cons, List.mem_map] at h ⊢
    exact h.imp (congrArg Prod.snd) fun ⟨op, hop, heq⟩ => ⟨op, hop, congrArg Prod.snd heq⟩
  obtain ⟨heq, hsegs, seg, hhead, hseg⟩ := hall t.2 hmem
  refine ⟨_, heq, fun k seg hseg => ?_, ?_⟩
  · obtain ⟨hchars, hdot⟩ := hsegs seg hseg
    exact ⟨⟨fun c hc => (hchars c hc).1, fun c hc => by simp [Url.isSlash, (hchars c hc).2]⟩, hdot⟩
  · obtain ⟨segs, hcons⟩ := List.head?_eq_some_iff.mp hhead
    exact ⟨seg, segs, hcons, hseg⟩

end Endpoints

/-- **The endpoints of an accepted base URL are below it** if it has neither query nor fragment;
otherwise none of them is. -/
theorem Config.endpoints_below {c c' : Config} {s : String} (h : c.setBaseUrl s = .ok c') :
    ∃ u, Url.parse s = .ok u ∧ ∀ t ∈ (Endpoints.ofBase c'.baseUrl).targets,
      (u.IsRegular → u.query = none → u.fragment = none →
        ∃ v, Url.parse t.1 = .ok v ∧ u.IsBelow t.2 v) ∧
      ((∃ v, Url.parse t.1 = .ok v ∧ u.IsBelow t.2 v) → u.query = none ∧ u.fragment = none) := by
  rw [setBaseUrl] at h
  split at h
  · next u hu =>
    cases h
    refine ⟨u, hu, fun t ht => ?_⟩
    have htext : t.1.toList = dropEndWhile (· == '/') u.toText.toList ++ t.2.toList := by
      have hlast := (dropTrailingSlashes_append u.toText).2
      have hagain := dropEndWhile_of_getLast? hlast
      rw [Endpoints.eq_append_of_mem_targets ht, String.toList_append, Endpoints.ofBase]
      simp only [dropTrailingSlashes, String.toList_ofList] at hagain ⊢
      rw [hagain]
    constructor
    · intro hreg hq hf
      obtain ⟨ends, hends, hendpoint⟩ := Endpoints.isEndpoint_of_mem_targets ht
      exact Url.exists_below hreg hq hf hendpoint hends (by rw [htext, hends]) hu
    · rintro ⟨v, hv, hbelow⟩
      exact Url.eq_none_of_below htext hv hbelow.query hbelow.fragment
  · cases h

namespace Sample

/-- A base URL with a path, and slashes at its end. -/
def slashedBase : String := "https://api.dropbox.test/v//"

/-- What it is read as. -/
def slashedUrl : Url := ⟨"https", "", some "api.dropbox.test", none, "/v//", none, none⟩

/-- A base URL with a query. -/
def queriedBase : String := "https://api.dropbox.test/p?q=1"

/-- What it is read as. -/
def queriedUrl : Url := ⟨"https", "", some "api.dropbox.test", none, "/p", some "q=1", none⟩

end Sample

open Sample in
theorem Config.endpoints_below_slashed :
    ∃ c', standard.setBaseUrl slashedBase = .ok c' ∧ slashedUrl.IsRegular ∧
      ∀ t ∈ (Endpoints.ofBase c'.baseUrl).targets,
        ∃ v, Url.parse t.1 = .ok v ∧ slashedUrl.IsBelow t.2 v := by
  have hparse : Url.parse slashedBase = .ok slashedUrl := by decide +kernel
  have h : standard.setBaseUrl slashedBase =
      .ok { standard with baseUrl := dropTrailingSlashes slashedUrl.toText } := by
    rw [setBaseUrl, hparse]
  have hreg : slashedUrl.IsRegular := by
    refine ⟨fun _ host hhost => ?_, fun hfile => absurd hfile (by decide),
      fun hfile => absurd hfile (by decide)⟩
    cases hhost
    unfold Url.Domain.HasReadableLabels
    decide
  obtain ⟨u, hu, hall⟩ := endpoints_below h
  rw [hparse] at hu
  cases hu
  exact ⟨_, h, hreg, fun t ht => (hall t ht).1 hreg rfl rfl⟩

open Sample in
/-- Behind a query a path belongs to it. -/
theorem Config.endpoints_below_fails :
    ∃ c' v, standard.setBaseUrl queriedBase = .ok c' ∧ Url.parse queriedBase = .ok queriedUrl ∧
      Url.parse ((Endpoints.ofBase c'.baseUrl).url .listGroups) = .ok v ∧
      v.path = "/p" ∧ v.query = some "q=1/2/team/groups/list" ∧
      ¬queriedUrl.IsBelow Operation.listGroups.path v := by
  have hparse : Url.parse queriedBase = .ok queriedUrl := by decide +kernel
  have h : standard.setBaseUrl queriedBase =
      .ok { standard with baseUrl := dropTrailingSlashes queriedUrl.toText } := by
    rw [setBaseUrl, hparse]
  have hread : Url.parse ((Endpoints.ofBase (dropTrailingSlashes queriedUrl.toText)).url
      .listGroups) = .ok { queriedUrl with query := some "q=1/2/team/groups/list" } := by
    decide +kernel
  exact ⟨_, _, h, hparse, hread, rfl, rfl, fun hbelow => Option.some_ne_none _ hbelow.query⟩

end TeamSync
