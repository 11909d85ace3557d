import TeamSync.Proofs.Url.NormalForm
import TeamSync.Proofs.Url.Punycode
import TeamSync.Proofs.Url.Segments
import TeamSync.Url.Domain

/-!
Domain names are read back. The ASCII form of a name is its own, label by label: a label beyond
ASCII is written in Punycode, read as what it stands for, and found valid again.
-/

namespace TeamSync.Url.Domain

open Text

/-! ### Lower case -/

/-- A text in ASCII without capitals. -/
def IsLower (cs : List Char) : Prop := ∀ c ∈ cs, c.toNat < 0x80 ∧ isCapital c.toNat = false

variable {cs ds t : List Char} {c : Char}

lemma toLower_of_not_isCapital (h : isCapital c.toNat = false) : c.toLower = c := by
  have hnot : ¬(c.val ≥ 65 ∧ c.val ≤ 90) := by
    rintro ⟨hlo, hhi⟩
    rw [ge_iff_le, UInt32.le_iff_toNat_le] at hlo
    rw [UInt32.le_iff_toNat_le] at hhi
    have : isCapital c.toNat = true := isCapital_iff.mpr ⟨hlo, hhi⟩
    rw [h] at this
    exact Bool.noConfusion this
  exact dif_neg hnot

lemma isLower_toLower (h : c.toNat < 0x80) :
    c.toLower.toNat < 0x80 ∧ isCapital c.toLower.toNat = false := by
  refine of_toNat_lt h ?_
  decide +kernel

lemma IsLower.map_toLower (h : IsLower cs) : cs.map Char.toLower = cs :=
  (List.map_congr_left fun c hc => toLower_of_not_isCapital (h c hc).2).trans (List.map_id' cs)

lemma isLower_map_toLower (h : ∀ c ∈ cs, c.toNat < 0x80) : IsLower (cs.map Char.toLower) := by
  intro d hd
  obtain ⟨c, hc, rfl⟩ := List.mem_map.mp hd
  exact isLower_toLower (h c hc)

/-! ### Mapping -/

lemma IsLower.mapped? (h : IsLower cs) : mapped? cs = some cs := by
  have hkept : (cs.map Char.toNat).mapM replace? = some (cs.map fun c => [c.toNat]) := by
    rw [mapM_eq_some_iff, List.forall₂_map_left_iff, List.forall₂_map_right_iff,
      List.forall₂_same]
    exact fun c hc => replace?_of_lt (h c hc).1 (h c hc).2
  have hflat : (cs.map fun c => [c.toNat]).flatten = cs.map Char.toNat := by
    rw [← List.flatMap_def, List.map_eq_flatMap]
  have hnormal : Composition.normalize (cs.map Char.toNat) = cs.map Char.toNat := by
    refine normalize_of_lt fun n hn => ?_
    obtain ⟨c, hc, rfl⟩ := List.mem_map.mp hn
    exact (h c hc).1
  simp only [Domain.mapped?, hkept, Option.bind_eq_bind, Option.bind_some, hflat, hnormal,
    Option.pure_def, List.map_map]
  simp [Function.comp_def, Char.ofNat_toNat]

/-- A name has no capitals once it is mapped. -/
lemma isCapital_of_mapped? (h : mapped? cs = some ds) : ∀ c ∈ ds, isCapital c.toNat = false := by
  obtain ⟨ms, hms, h⟩ := Option.bind_eq_some_iff.mp h
  rw [← Option.some.inj h]
  intro c hc
  obtain ⟨n, hn, rfl⟩ := List.mem_map.mp hc
  have hflat : ∀ m ∈ ms.flatten, isCapital m = false := by
    intro m hm
    obtain ⟨ks, hks, hm⟩ := List.mem_flatten.mp hm
    obtain ⟨k, -, hk⟩ := exists_of_mapM hms ks hks
    exact isCapital_of_mem_replace? hk m hm
  have hcap := isCapital_of_mem_normalize hflat n hn
  by_cases hvalid : n.isValidChar
  · have hchar : Char.ofNat n = Char.ofNatAux n hvalid := dif_pos hvalid
    rw [hchar]
    exact hcap
  · have hchar : Char.ofNat n = '\x00' := dif_neg hvalid
    rw [hchar]
    rfl

/-! ### Labels -/

namespace Label

lemma isMarked_append (cs : List Char) : isMarked (mark ++ cs) = true := by
  simp [isMarked]

lemma isLower_mark : IsLower mark := by unfold IsLower; decide

lemma isLower_encode (h : ∀ c ∈ t, isCapital c.toNat = false) : IsLower (Punycode.encode t) := by
  have hdigits : ∀ c ∈ '-' :: Punycode.digits, c.toNat < 0x80 ∧ isCapital c.toNat = false := by
    decide
  intro c hc
  rcases Punycode.mem_encode hc with ⟨hmem, hlt⟩ | hmem
  · exact ⟨hlt, h c hmem⟩
  · exact hdigits c hmem

/-- How a label is written: as it is, or with a mark in Punycode. -/
lemma ofText?_cases {l : Label} (h : ofText? t = some l) :
    l.ascii = t ∧ (∀ c ∈ t, c.toNat < 0x80) ∨
      l.ascii = mark ++ Punycode.encode t ∧ l.text = t.map Char.toNat ∧ isValid l.text = true ∧
        isAscii l.text = false := by
  simp only [ofText?] at h
  split at h
  · next hmarked =>
    rw [ofMarked?] at h
    simp only [Option.bind_eq_bind, Option.bind_eq_some_iff, Option.ite_none_right_eq_some,
      Option.some.injEq] at h
    obtain ⟨-, -, text, htext, -, rfl⟩ := h
    refine .inl ⟨rfl, fun c hc => ?_⟩
    have hsplit : t = mark ++ t.drop mark.length :=
      (List.prefix_iff_eq_append.mp (by simpa [isMarked] using hmarked)).symm
    rw [hsplit, List.mem_append] at hc
    rcases hc with hc | hc
    · exact (isLower_mark c hc).1
    · exact Punycode.toNat_lt_of_decode? htext c hc
  · split at h
    · next hvalid =>
      cases h
      split
      · next hascii =>
        refine .inl ⟨rfl, fun c hc => ?_⟩
        have := List.all_eq_true.mp hascii c.toNat (List.mem_map_of_mem hc)
        exact of_decide_eq_true this
      · next hascii => exact .inr ⟨rfl, rfl, hvalid, by simpa using hascii⟩
    · cases h

/-- **A written label is read as that label**, if it is not too long to be read. -/
theorem ofText?_ascii {l : Label} (h : ofText? t = some l)
    (hlen : isMarked l.ascii = true → l.ascii.length ≤ mark.length + mostEncoded) :
    ofText? l.ascii = some l := by
  rcases ofText?_cases h with ⟨heq, -⟩ | ⟨heq, htext, hvalid, hascii⟩
  · rwa [heq]
  · rw [heq] at hlen ⊢
    have hlen' : (Punycode.encode t).length ≤ mostEncoded := by
      have := hlen (isMarked_append _)
      rw [List.length_append] at this
      omega
    rw [htext] at hvalid hascii
    have hl : l = ⟨t.map Char.toNat, mark ++ Punycode.encode t⟩ := by rw [← heq, ← htext]
    simp only [ofText?, isMarked_append, if_true, ofMarked?, List.drop_left, guard, hlen',
      Punycode.decode?_encode, hvalid, hascii, Option.bind_eq_bind, Option.bind_some, hl]
    rfl

/-- A written label is in ASCII and lower case, and holds no dot. -/
lemma isLower_ascii {l : Label} (h : ofText? t = some l) (hcap : ∀ c ∈ t, isCapital c.toNat = false)
    (hdot : '.' ∉ t) : IsLower l.ascii ∧ '.' ∉ l.ascii := by
  rcases ofText?_cases h with ⟨heq, hlt⟩ | ⟨heq, -⟩
  · rw [heq]
    exact ⟨fun c hc => ⟨hlt c hc, hcap c hc⟩, hdot⟩
  · rw [heq]
    refine ⟨fun c hc => ?_, fun hc => ?_⟩
    · exact (List.mem_append.mp hc).elim (isLower_mark c) (isLower_encode hcap c)
    · rcases List.mem_append.mp hc with hc | hc
      · exact absurd hc (by decide)
      · rcases Punycode.mem_encode hc with ⟨hmem, -⟩ | hmem
        · exact hdot hmem
        · exact absurd hmem (by decide)

end Label

/-! ### Names -/

/-- Whether the labels of a name that have a mark are short enough to be read. -/
def HasReadableLabels (cs : List Char) : Prop :=
  ∀ t ∈ labelsOf cs, Label.isMarked t = true → t.length ≤ Label.mark.length + Label.mostEncoded

lemma labelsOf_ne_nil (cs : List Char) : labelsOf cs ≠ [] := splitAt_ne_nil _ _

/-- An international name is in lower case and its own ASCII form. -/
lemma international?_readBack (h : international? cs = some ds) (hlen : HasReadableLabels ds) :
    IsLower ds ∧ international? ds = some ds := by
  simp only [international?, Option.bind_eq_bind, Option.bind_eq_some_iff] at h
  obtain ⟨ms, hmapped, labels, hlabels, h⟩ := h
  rw [Option.ite_none_left_eq_some] at h
  obtain ⟨hfits, h⟩ := h
  have hds : joined '.' (labels.map (·.ascii)) = ds := Option.some.inj h
  have hcap := isCapital_of_mapped? hmapped
  have hlower : ∀ l ∈ labels, IsLower l.ascii ∧ '.' ∉ l.ascii := by
    intro l hl
    obtain ⟨t, ht, htl⟩ := exists_of_mapM hlabels l hl
    have hmem {c : Char} (hc : c ∈ t) := mem_of_mem_splitAt ht hc
    refine Label.isLower_ascii htl (fun c hc => hcap c (hmem hc).1) fun hc => ?_
    exact absurd (hmem hc).2 (by decide)
  have hne : labels ≠ [] := by
    rintro rfl
    exact labelsOf_ne_nil ms (List.forall₂_nil_right_iff.mp (mapM_eq_some_iff.mp hlabels))
  have hcut : labelsOf ds = labels.map (·.ascii) := by
    rw [← hds]
    refine splitAt_joined (by simpa using hne) (by decide) fun s hs c hc => ?_
    obtain ⟨l, hl, rfl⟩ := List.mem_map.mp hs
    exact decide_eq_false fun heq => (hlower l hl).2 (heq ▸ hc)
  have hds_lower : IsLower ds := by
    intro c hc
    rcases mem_joined (hds ▸ hc) with rfl | ⟨s, hs, hc⟩
    · decide
    · obtain ⟨l, hl, rfl⟩ := List.mem_map.mp hs
      exact (hlower l hl).1 c hc
  have hread : (labelsOf ds).mapM Label.ofText? = some labels := by
    rw [hcut, mapM_eq_some_iff, List.forall₂_map_left_iff, List.forall₂_same]
    intro l hl
    obtain ⟨t, -, htl⟩ := exists_of_mapM hlabels l hl
    exact Label.ofText?_ascii htl fun hm =>
      hlen l.ascii (hcut ▸ List.mem_map_of_mem hl) hm
  refine ⟨hds_lower, ?_⟩
  simp only [international?, hds_lower.mapped?, hread, Option.bind_eq_bind, Option.bind_some,
    if_neg hfits]
  exact congrArg some hds

lemma isPlain_toLower (h : isPlain cs = true) :
    IsLower (cs.map Char.toLower) ∧ isPlain (cs.map Char.toLower) = true := by
  simp only [isPlain, Bool.and_eq_true, List.all_eq_true, decide_eq_true_eq] at h
  have hlower := isLower_map_toLower h.1
  refine ⟨hlower, ?_⟩
  simp only [isPlain, Bool.and_eq_true, List.all_eq_true, decide_eq_true_eq, hlower.map_toLower]
  exact ⟨fun c hc => (hlower c hc).1, h.2⟩

/-- No label has a mark in a name without its first letter. -/
lemma IsLower.isPlain (h : IsLower cs) (hx : 'x' ∉ cs) : isPlain cs = true := by
  simp only [Domain.isPlain, Bool.and_eq_true, List.all_eq_true, decide_eq_true_eq, h.map_toLower,
    Bool.not_eq_true']
  refine ⟨fun c hc => (h c hc).1, List.any_eq_false.mpr fun t ht hmarked => hx ?_⟩
  have hmark : Label.mark <+: t := by simpa [Label.isMarked] using hmarked
  exact (mem_of_mem_splitAt ht (hmark.subset List.mem_cons_self)).1

lemma IsLower.ascii?_of_isPlain (h : IsLower cs) (hplain : Domain.isPlain cs = true) :
    ascii? cs = some cs := by
  rw [ascii?, if_pos hplain, h.map_toLower]

/-- **The ASCII form of a name is in lower case and its own ASCII form.** -/
theorem ascii?_readBack (h : ascii? cs = some ds) (hlen : HasReadableLabels ds) :
    IsLower ds ∧ ascii? ds = some ds := by
  rw [ascii?] at h
  split at h
  · next hplain =>
    cases h
    obtain ⟨hlower, hplain⟩ := isPlain_toLower hplain
    exact ⟨hlower, hlower.ascii?_of_isPlain hplain⟩
  · obtain ⟨hlower, hread⟩ := international?_readBack h hlen
    refine ⟨hlower, ?_⟩
    rw [ascii?]
    split
    · rw [hlower.map_toLower]
    · exact hread

end TeamSync.Url.Domain
