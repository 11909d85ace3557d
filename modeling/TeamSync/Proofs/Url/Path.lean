import TeamSync.Proofs.Url.Encoded
import TeamSync.Proofs.Url.Segments
import TeamSync.Url.Parse

/-!
Paths are read back. Reading leaves segments of characters that are kept, without dots unless in a
file path, and such segments are read as they are.
-/

namespace TeamSync.Url

open Text

/-! ### Segments as they are written -/

/-- The characters of a segment in a written path. -/
structure IsSegment (k : SchemeKind) (seg : List Char) : Prop where
  keeps : ∀ c ∈ seg, pathSet.Keeps c
  whole : ∀ c ∈ seg, isSlash k c = false

/-- A segment that stands for a step in the path. -/
def isDot (seg : List Char) : Bool := isSingleDot seg || isDoubleDot seg

variable {k : SchemeKind} {seg : List Char} {segs : List (List Char)} {c : Char} {cs : List Char}

lemma isSegment_nil (k : SchemeKind) : IsSegment k [] :=
  ⟨fun _ h => absurd h List.not_mem_nil, fun _ h => absurd h List.not_mem_nil⟩

lemma isIgnored_of_le (h : 0x20 ≤ c.toNat) : isIgnored c = false := by
  have hne {d : Char} (hd : d.toNat < 0x20) : c ≠ d := by rintro rfl; omega
  simp [isIgnored, hne (by decide : '\t'.toNat < 0x20), hne (by decide : '\n'.toNat < 0x20),
    hne (by decide : '\r'.toNat < 0x20)]

lemma counting_of_forall (h : ∀ c ∈ cs, isIgnored c = false) : counting cs = cs :=
  List.filter_eq_self.mpr fun c hc => by simp [h c hc]

lemma next?_cons (h : isIgnored c = false) : next? (c :: cs) = some (c, cs) := by
  simp [next?, h]

lemma isSlash_slash (k : SchemeKind) : isSlash k '/' = true := by simp [isSlash]

lemma range_of_isAlpha (h : c.isAlpha = true) : 0x41 ≤ c.toNat ∧ c.toNat ≤ 0x7A := by
  have hval : c.toNat = c.val.toNat := rfl
  have hcases : (decide (c.val ≥ 'A'.val ∧ c.val ≤ 'Z'.val) ||
      decide (c.val ≥ 'a'.val) && decide (c.val ≤ 'z'.val)) = true := h
  simp only [Bool.or_eq_true, Bool.and_eq_true, decide_eq_true_eq, ge_iff_le,
    UInt32.le_iff_toNat_le] at hcases
  have : 'A'.val.toNat = 0x41 := rfl
  have : 'Z'.val.toNat = 0x5A := rfl
  have : 'a'.val.toNat = 0x61 := rfl
  have : 'z'.val.toNat = 0x7A := rfl
  omega

lemma slash_not_mem (h : ∀ c ∈ seg, isSlash k c = false) : '/' ∉ seg := fun hc => by
  have := h _ hc
  rw [isSlash_slash] at this
  exact Bool.noConfusion this

lemma mem_of_next? {r : List Char} (h : next? cs = some (c, r)) : ∀ d ∈ c :: r, d ∈ cs := by
  rw [next?] at h
  split at h
  · next hdrop =>
    cases h
    exact fun d hd => (List.dropWhile_suffix isIgnored).subset (hdrop ▸ hd)
  · cases h

/-- A drive letter kept apart is a letter with a colon, and something ignored stands behind it. -/
lemma Path.driveApart?_eq_some {drive rest : List Char}
    (h : driveApart? seg = some (drive, rest)) :
    ∃ a, a.isAlpha = true ∧ drive = [a, ':'] ∧ (∀ c ∈ rest, c ∈ seg) ∧
      ∃ c ∈ seg, isIgnored c = true := by
  rw [driveApart?] at h
  split at h
  · next a r hr =>
    split at h
    · next c cs hc =>
      have hmem : ∀ d ∈ c :: cs, d ∈ seg := fun d hd =>
        mem_of_next? hr d (List.mem_cons_of_mem _ (mem_of_next? hc d (List.mem_cons_of_mem _ hd)))
      simp only at h
      split at h
      · next ha =>
        cases h
        exact ⟨a, ha.1, rfl, fun d hd => hmem d (List.mem_of_mem_filter hd), c,
          hmem c List.mem_cons_self, ha.2.1⟩
      · cases h
    · cases h
  · cases h

lemma Path.driveApart?_of_forall (h : ∀ c ∈ seg, isIgnored c = false) :
    driveApart? seg = none := by
  refine Option.eq_none_iff_forall_ne_some.mpr fun dr hdr => ?_
  obtain ⟨-, -, -, -, c, hc, hi⟩ := driveApart?_eq_some hdr
  rw [h c hc] at hi
  exact Bool.noConfusion hi

namespace IsSegment

variable (h : IsSegment k seg)
include h

lemma isIgnored_eq_false : ∀ c ∈ seg, isIgnored c = false :=
  fun c hc => isIgnored_of_le (h.keeps c hc).1

lemma encode_counting : encode pathSet (counting seg) = seg := by
  rw [counting_of_forall h.isIgnored_eq_false, encode_of_keeps h.keeps]

/-- A segment without dots is read as it is, other than a drive letter at the front of a file
path. -/
lemma read_eq (hdot : isDot seg = false) {p : Path}
    (hdrive : k = .file → p.segments = [] → isDriveLetter seg = false) (last : Bool) :
    p.read k seg last = p.add seg := by
  obtain ⟨hsingle, hdouble⟩ := Bool.or_eq_false_iff.mp hdot
  have hdrive' : ¬(k = .file ∧ p.segments.isEmpty = true ∧ isDriveLetter seg = true) := by
    rintro ⟨hk, hp, hd⟩
    rw [hdrive hk (List.isEmpty_iff.mp hp)] at hd
    exact Bool.noConfusion hd
  rw [Path.read, Path.driveApart?_of_forall h.isIgnored_eq_false, ite_self]
  simp only [h.encode_counting, Path.push, hdouble, hsingle, if_neg hdrive', Bool.false_eq_true,
    if_false]

end IsSegment

/-! ### Reading them back -/

lemma Path.readAll_eq (h : ∀ seg ∈ segs, IsSegment k seg ∧ isDot seg = false) {p : Path}
    (hdrive : k = .file → p.segments = [] → ∀ seg ∈ segs.head?, isDriveLetter seg = false) :
    p.readAll k segs = ⟨segs.reverse ++ p.segments, p.onDrive⟩ := by
  induction segs generalizing p with
  | nil => rfl
  | cons seg segs ih =>
    obtain ⟨hseg, hdot⟩ := h seg List.mem_cons_self
    have hread (last : Bool) : p.read k seg last = p.add seg :=
      hseg.read_eq hdot (fun hk hp => hdrive hk hp seg rfl) last
    have hrest := ih (fun s hs => h s (List.mem_cons_of_mem _ hs)) (p := p.add seg)
      (fun _ hp => absurd hp (List.cons_ne_nil _ _))
    cases segs with
    | nil => rw [readAll, hread]; rfl
    | cons s ss =>
      rw [readAll, hread, hrest]
      · simp [add]
      · exact List.cons_ne_nil _ _

/-- **A written path is read as its segments.** -/
theorem Path.ofText_slashed (h : ∀ s ∈ seg :: segs, IsSegment k s ∧ isDot s = false)
    (hdrive : k = .file → isDriveLetter seg = false) :
    ofText k (seg ++ slashed segs) = ⟨(seg :: segs).reverse, false⟩ := by
  obtain ⟨⟨hseg, -⟩, hsegs⟩ := List.forall_mem_cons.mp h
  rw [ofText, splitAt_slashed (isSlash_slash k) hseg.whole fun s hs => (hsegs s hs).1.whole,
    readAll_eq h fun hk _ s hs => ?_]
  · exact congrArg (Path.mk · false) (List.append_nil _)
  · cases hs
    exact hdrive hk

lemma Path.text_eq (hk : k ≠ .file) (p : Path) : p.text k = slashed p.segments.reverse := by
  rw [text, if_neg hk, slashed]

lemma Path.text_file (p : Path) : p.text .file = slashed (dropEmptyFront p.segments.reverse) := rfl

/-! ### What reading leaves -/

/-- What stands in a path that is read: segments, without dots unless in a file path. -/
def Path.Settled (k : SchemeKind) (p : Path) : Prop :=
  ∀ seg ∈ p.segments, IsSegment k seg ∧ (k ≠ .file → isDot seg = false)

namespace Path

variable {p : Path}

lemma settled_empty (k : SchemeKind) : empty.Settled k := fun _ h => absurd h List.not_mem_nil

lemma isDot_nil : isDot [] = false := by decide

lemma Settled.add (hp : p.Settled k) (hseg : IsSegment k seg)
    (hdot : k ≠ .file → isDot seg = false) : (p.add seg).Settled k :=
  List.forall_mem_cons.mpr ⟨⟨hseg, hdot⟩, hp⟩

lemma Settled.up (hp : p.Settled k) : p.up.Settled k := by
  rw [Path.up]
  split
  · next s ss hs =>
    split
    · exact hp
    · exact fun t ht => hp t (hs ▸ List.mem_cons_of_mem _ ht)
  · exact hp

lemma Settled.ending (hp : p.Settled k) (last : Bool) : (p.ending last).Settled k := by
  cases last with
  | true => exact hp.add (isSegment_nil k) fun _ => isDot_nil
  | false => exact hp

lemma isSlash_of_isAlpha (h : c.isAlpha = true) : isSlash k c = false := by
  have hs : c ≠ '/' := by rintro rfl; exact absurd h (by decide)
  have hb : c ≠ '\\' := by rintro rfl; exact absurd h (by decide)
  simp [isSlash, hs, hb]

lemma isSlash_colon : isSlash k ':' = false := by simp [isSlash]

lemma keeps_of_isAlpha (h : c.isAlpha = true) : pathSet.Keeps c := by
  have hset : ∀ d ∈ pathSet.chars, d.isAlpha = false := by decide
  obtain ⟨hlo, hhi⟩ := range_of_isAlpha h
  refine ⟨by omega, by omega, fun hc => ?_⟩
  rw [hset c hc] at h
  exact Bool.noConfusion h

lemma isSegment_drive (ha : c.isAlpha = true) : IsSegment k [c, ':'] := by
  constructor
  · exact List.forall_mem_cons.mpr ⟨keeps_of_isAlpha ha, List.forall_mem_singleton.mpr (by decide)⟩
  · exact List.forall_mem_cons.mpr
      ⟨isSlash_of_isAlpha ha, List.forall_mem_singleton.mpr isSlash_colon⟩

/-- Encoding brings in no slash. -/
lemma isSlash_of_mem_encode (h : ∀ c ∈ cs, isSlash k c = false) :
    ∀ c ∈ encode pathSet cs, isSlash k c = false := by
  intro c hc
  rcases mem_encode hc with ⟨hmem, -⟩ | hesc
  · exact h c hmem
  · have hall : ∀ c ∈ escapeChars, c ≠ '/' ∧ c ≠ '\\' := by decide
    simp [isSlash, hall c hesc]

lemma isSegment_encode (h : ∀ c ∈ cs, isSlash k c = false) : IsSegment k (encode pathSet cs) :=
  ⟨fun _ => keeps_of_mem_encode keepsEscapes_pathSet, isSlash_of_mem_encode h⟩

lemma Settled.push (hp : p.Settled k) (hseg : IsSegment k seg) (last : Bool) :
    (p.push k seg last).Settled k := by
  rw [Path.push]
  split
  · exact hp.up.ending last
  · next hdouble =>
    split
    · exact hp.ending last
    · next hsingle =>
      split
      · next hdrive =>
        obtain ⟨hk, -, hd⟩ := hdrive
        match seg, hd with
        | [a, b], hd =>
          simp only [isDriveLetter, Bool.and_eq_true] at hd
          exact List.forall_mem_singleton.mpr ⟨isSegment_drive hd.1, fun h => absurd hk h⟩
      · exact hp.add hseg fun _ => by simp [isDot, hsingle, hdouble]

/-- Reading a segment leaves segments. A drive letter kept apart stands in a file path, where dots
may be left. -/
lemma Settled.read (hp : p.Settled k) (hseg : ∀ c ∈ seg, isSlash k c = false) (last : Bool) :
    (p.read k seg last).Settled k := by
  rw [Path.read]
  split
  · next drive rest hdrive =>
    obtain ⟨hk, hdrive⟩ : k = .file ∧ driveApart? seg = some (drive, rest) := by
      split at hdrive
      · next hk => exact ⟨hk.1, hdrive⟩
      · cases hdrive
    obtain ⟨a, ha, rfl, hmem, -⟩ := driveApart?_eq_some hdrive
    have hd : IsSegment k [a, ':'] := isSegment_drive ha
    have hr : IsSegment k (encode pathSet rest) := isSegment_encode fun c hc => hseg c (hmem c hc)
    exact (hp.add hd fun h => absurd hk h).add hr fun h => absurd hk h
  · exact hp.push (isSegment_encode fun c hc => hseg c (List.mem_of_mem_filter hc)) last

lemma Settled.readAll {segs : List (List Char)} (hp : p.Settled k)
    (h : ∀ seg ∈ segs, ∀ c ∈ seg, isSlash k c = false) : (p.readAll k segs).Settled k := by
  induction segs generalizing p with
  | nil => exact hp
  | cons seg segs ih =>
    have hread (last : Bool) := hp.read (h seg List.mem_cons_self) last
    cases segs with
    | nil => exact hread true
    | cons s ss => exact ih (hread false) fun t ht => h t (List.mem_cons_of_mem _ ht)

/-- **What is read as a path is settled.** -/
theorem settled_ofText (k : SchemeKind) (cs : List Char) : (ofText k cs).Settled k :=
  (settled_empty k).readAll fun _ hs _ hc => (mem_of_mem_splitAt hs hc).2

end Path

end TeamSync.Url
