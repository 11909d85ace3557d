import Mathlib.Data.List.DropRight
import Mathlib.Data.List.Forall2
import Mathlib.Data.Nat.Notation
import Mathlib.Tactic.Lemma
import TeamSync.Text.Blank
import TeamSync.Text.Split

/-!
Texts as parts and separators. Parts without separators are what a text of them is cut into, and the
slashes at the end of a path are its empty segments there.
-/

namespace TeamSync.Text

/-- What holds of each character of a text is decided one by one. -/
instance (priority := high) decidableForallMem {q : Char → Prop} [DecidablePred q]
    (cs : List Char) : Decidable (∀ c ∈ cs, q c) := List.decidableBAll q cs

/-- What holds of the characters below a number, one by one, holds of each of them. -/
@[elab_as_elim]
lemma of_toNat_lt {motive : Char → Prop} {b : ℕ} {c : Char} (hc : c.toNat < b)
    (h : ∀ n < b, motive (Char.ofNat n)) : motive c := by
  have hchar := h c.toNat hc
  rwa [Char.ofNat_toNat] at hchar

variable {p : Char → Bool} {c : Char} {cs : List Char}

/-! ### Cutting -/

lemma splitAt_ne_nil (p : Char → Bool) (cs : List Char) : splitAt p cs ≠ [] := by
  cases cs with
  | nil => exact List.cons_ne_nil _ _
  | cons c cs =>
    rw [splitAt]
    split
    · exact List.cons_ne_nil _ _
    · split <;> exact List.cons_ne_nil _ _

lemma splitAt_cons_of_pos (h : p c = true) : splitAt p (c :: cs) = [] :: splitAt p cs := by
  obtain ⟨s, ss, hs⟩ := List.exists_cons_of_ne_nil (splitAt_ne_nil p cs)
  simp [splitAt, hs, h]

lemma splitAt_cons_of_neg (h : p c = false) {s : List Char} {ss : List (List Char)}
    (hs : splitAt p cs = s :: ss) : splitAt p (c :: cs) = (c :: s) :: ss := by
  simp [splitAt, hs, h]

/-- The parts hold the characters of the text that separate nothing. -/
lemma mem_of_mem_splitAt {s : List Char} (hs : s ∈ splitAt p cs) (hc : c ∈ s) :
    c ∈ cs ∧ p c = false := by
  induction cs generalizing s with
  | nil =>
    rw [splitAt, List.mem_singleton] at hs
    subst hs
    exact absurd hc List.not_mem_nil
  | cons d ds ih =>
    obtain ⟨t, ts, ht⟩ := List.exists_cons_of_ne_nil (splitAt_ne_nil p ds)
    rw [ht] at ih
    cases hd : p d with
    | true =>
      rw [splitAt_cons_of_pos hd, ht, List.mem_cons] at hs
      rcases hs with rfl | hs
      · exact absurd hc List.not_mem_nil
      · exact (ih hs hc).imp_left (List.mem_cons_of_mem _)
    | false =>
      rw [splitAt_cons_of_neg hd ht, List.mem_cons] at hs
      rcases hs with rfl | hs
      · rcases List.mem_cons.mp hc with rfl | hc
        · exact ⟨List.mem_cons_self, hd⟩
        · exact (ih List.mem_cons_self hc).imp_left (List.mem_cons_of_mem _)
      · exact (ih (List.mem_cons_of_mem _ hs) hc).imp_left (List.mem_cons_of_mem _)

/-- A part in front of a text is a part of its own if a separator follows. -/
lemma splitAt_append {s : List Char} (h : ∀ c ∈ s, p c = false) (hc : p c = true) :
    splitAt p (s ++ c :: cs) = s :: splitAt p cs := by
  induction s with
  | nil => exact splitAt_cons_of_pos hc
  | cons d s ih =>
    exact splitAt_cons_of_neg (h d List.mem_cons_self)
      (ih fun c hc => h c (List.mem_cons_of_mem _ hc))

/-- A part that nothing follows is the only one. -/
lemma splitAt_of_forall {s : List Char} (h : ∀ c ∈ s, p c = false) : splitAt p s = [s] := by
  induction s with
  | nil => rfl
  | cons d s ih =>
    exact splitAt_cons_of_neg (h d List.mem_cons_self)
      (ih fun c hc => h c (List.mem_cons_of_mem _ hc))

/-- Parts with separators between them are cut into these parts. -/
lemma splitAt_flatMap {sep : Char} {s : List Char} {ss : List (List Char)} (hp : p sep = true)
    (hs : ∀ c ∈ s, p c = false) (hss : ∀ t ∈ ss, ∀ c ∈ t, p c = false) :
    splitAt p (s ++ ss.flatMap (sep :: ·)) = s :: ss := by
  induction ss generalizing s with
  | nil => rw [List.flatMap_nil, List.append_nil, splitAt_of_forall hs]
  | cons t ts ih =>
    rw [List.flatMap_cons, List.cons_append, splitAt_append hs hp,
      ih (hss t List.mem_cons_self) fun u hu => hss u (List.mem_cons_of_mem _ hu)]

/-- Parts with a separator between each two of them. -/
def joined (sep : Char) (ss : List (List Char)) : List Char := (ss.intersperse [sep]).flatten

@[simp] lemma joined_nil (sep : Char) : joined sep [] = [] := rfl

lemma joined_cons (sep : Char) (s : List Char) (ss : List (List Char)) :
    joined sep (s :: ss) = s ++ ss.flatMap (sep :: ·) := by
  induction ss generalizing s with
  | nil => simp [joined]
  | cons t ts ih =>
    have hih := ih t
    rw [joined] at hih ⊢
    rw [List.intersperse_cons_cons, List.flatten_cons, List.flatten_cons, hih]
    simp

lemma mem_joined {sep : Char} {ss : List (List Char)} (h : c ∈ joined sep ss) :
    c = sep ∨ ∃ s ∈ ss, c ∈ s := by
  cases ss with
  | nil => exact absurd h List.not_mem_nil
  | cons s ss =>
    rw [joined_cons, List.mem_append, List.mem_flatMap] at h
    rcases h with h | ⟨t, ht, h⟩
    · exact .inr ⟨s, List.mem_cons_self, h⟩
    · exact (List.mem_cons.mp h).imp_right fun h => ⟨t, List.mem_cons_of_mem _ ht, h⟩

/-- **Joining is undone by cutting.** -/
theorem splitAt_joined {sep : Char} {ss : List (List Char)} (hne : ss ≠ [])
    (hp : p sep = true) (h : ∀ s ∈ ss, ∀ c ∈ s, p c = false) : splitAt p (joined sep ss) = ss := by
  obtain ⟨s, ss, rfl⟩ := List.exists_cons_of_ne_nil hne
  rw [joined_cons, splitAt_flatMap hp (h s List.mem_cons_self) fun t ht =>
    h t (List.mem_cons_of_mem _ ht)]

/-- Parts are read one by one. -/
lemma mapM_eq_some_iff {α β : Type} {f : α → Option β} {as : List α} {bs : List β} :
    as.mapM f = some bs ↔ List.Forall₂ (fun a b => f a = some b) as bs := by
  induction as generalizing bs with
  | nil =>
    rw [List.mapM_nil, List.forall₂_nil_left_iff]
    exact ⟨fun h => (Option.some.inj h).symm, fun h => congrArg some h.symm⟩
  | cons a as ih =>
    rw [List.mapM_cons, List.forall₂_cons_left_iff]
    simp only [Option.bind_eq_bind, Option.bind_eq_some_iff, Option.pure_def, Option.some.injEq, ih]
    constructor
    · rintro ⟨b, hb, bs, hbs, rfl⟩
      exact ⟨b, bs, hb, hbs, rfl⟩
    · rintro ⟨b, bs, hb, hbs, rfl⟩
      exact ⟨b, hb, bs, hbs, rfl⟩

lemma exists_of_mapM {α β : Type} {f : α → Option β} {as : List α} {bs : List β}
    (h : as.mapM f = some bs) : ∀ b ∈ bs, ∃ a ∈ as, f a = some b := by
  induction mapM_eq_some_iff.mp h with
  | nil => exact fun b hb => absurd hb List.not_mem_nil
  | @cons a b as bs hab hs ih =>
    have hrest := ih (mapM_eq_some_iff.mpr hs)
    refine List.forall_mem_cons.mpr ⟨⟨a, List.mem_cons_self, hab⟩, fun c hc => ?_⟩
    obtain ⟨d, hd, hdc⟩ := hrest c hc
    exact ⟨d, List.mem_cons_of_mem _ hd, hdc⟩

/-! ### Segments of a path -/

/-- A path as it is written: each segment behind a slash. -/
def slashed (segs : List (List Char)) : List Char := segs.flatMap ('/' :: ·)

variable {segs : List (List Char)} {seg : List Char}

@[simp] lemma slashed_nil : slashed [] = [] := rfl

@[simp] lemma slashed_cons : slashed (seg :: segs) = '/' :: seg ++ slashed segs := rfl

@[simp] lemma slashed_append (ss ts : List (List Char)) :
    slashed (ss ++ ts) = slashed ss ++ slashed ts := List.flatMap_append

lemma mem_slashed : c ∈ slashed segs ↔ ∃ seg ∈ segs, c = '/' ∨ c ∈ seg := by
  simp [slashed]

/-- A written path is cut into its segments. -/
lemma splitAt_slashed (hp : p '/' = true) (hs : ∀ c ∈ seg, p c = false)
    (hss : ∀ s ∈ segs, ∀ c ∈ s, p c = false) : splitAt p (seg ++ slashed segs) = seg :: segs :=
  splitAt_flatMap hp hs hss

/-! ### Slashes at the end -/

/-- The segments without the empty ones at the end. -/
def trimmed (segs : List (List Char)) : List (List Char) := segs.rdropWhile (·.isEmpty)

lemma getLast?_slashed (hseg : seg ≠ []) (h : '/' ∉ seg) :
    (slashed (segs ++ [seg])).getLast? ≠ some '/' := by
  rw [slashed_append, slashed_cons, slashed_nil, List.append_nil,
    List.getLast?_append, List.getLast?_cons, List.getLast?_eq_some_getLast hseg]
  simp only [Option.getD_some, Option.some_or, ne_eq, Option.some.injEq]
  exact fun hl => h (hl ▸ List.getLast_mem hseg)

lemma dropEndWhile_of_getLast? {A : List Char} (h : A.getLast? ≠ some '/') :
    dropEndWhile (· == '/') A = A := by
  rcases A.eq_nil_or_concat with rfl | ⟨A, a, rfl⟩
  · rfl
  · have ha : ¬(a == '/') = true := by simpa using h
    rw [List.concat_eq_append]
    exact List.rdropWhile_concat_neg (· == '/') _ _ ha

/-- A text that does not end in a slash keeps its end. -/
lemma dropEndWhile_append {A : List Char} (hA : A.getLast? ≠ some '/') (B : List Char) :
    dropEndWhile (· == '/') (A ++ B) = A ++ dropEndWhile (· == '/') B := by
  induction B using List.reverseRecOn with
  | nil => simpa [dropEndWhile] using dropEndWhile_of_getLast? hA
  | append_singleton B b ih =>
    have hdrop (C : List Char) (hb : b = '/') :
        dropEndWhile (· == '/') (C ++ [b]) = dropEndWhile (· == '/') C :=
      List.rdropWhile_concat_pos _ _ _ (by simpa using hb)
    have hkeep (C : List Char) (hb : b ≠ '/') : dropEndWhile (· == '/') (C ++ [b]) = C ++ [b] :=
      List.rdropWhile_concat_neg (· == '/') _ _ (by simpa using hb)
    rw [← List.append_assoc]
    by_cases hb : b = '/'
    · rw [hdrop _ hb, hdrop _ hb, ih]
    · rw [hkeep _ hb, hkeep _ hb, List.append_assoc]

/-- **Without its slashes at the end a path is what is left of its segments.** -/
theorem dropEndWhile_slashed (h : ∀ seg ∈ segs, '/' ∉ seg) :
    dropEndWhile (· == '/') (slashed segs) = slashed (trimmed segs) := by
  induction segs using List.reverseRecOn with
  | nil => rfl
  | append_singleton segs seg ih =>
    by_cases hseg : seg = []
    · subst hseg
      have hdrop : dropEndWhile (· == '/') (slashed segs ++ ['/']) =
          dropEndWhile (· == '/') (slashed segs) := List.rdropWhile_concat_pos _ _ _ rfl
      rw [trimmed, List.rdropWhile_concat_pos _ _ _ rfl, slashed_append, slashed_cons, slashed_nil,
        List.append_nil, hdrop]
      exact ih fun s hs => h s (List.mem_append_left _ hs)
    · have hempty : ¬seg.isEmpty = true := by simpa using hseg
      rw [trimmed, List.rdropWhile_concat_neg _ _ _ hempty]
      exact dropEndWhile_of_getLast? (getLast?_slashed hseg (h seg (by simp)))

lemma mem_of_mem_trimmed (h : seg ∈ trimmed segs) : seg ∈ segs :=
  (List.rdropWhile_prefix _ segs).subset h

/-- What is left begins as the path does. -/
lemma trimmed_cases (segs : List (List Char)) :
    trimmed segs = [] ∨ ∃ seg ss ts, segs = seg :: ss ∧ trimmed segs = seg :: ts := by
  have hkept : trimmed segs <+: segs := List.rdropWhile_prefix _ segs
  rcases htrim : trimmed segs with _ | ⟨seg, ts⟩
  · exact .inl rfl
  · rw [htrim] at hkept
    obtain ⟨ss, hss⟩ := hkept
    exact .inr ⟨seg, ts ++ ss, ts, hss.symm, rfl⟩

/-- Empty segments in front of a path are left if anything is. -/
lemma trimmed_append_of_ne_nil (ss : List (List Char)) (h : trimmed segs ≠ []) :
    trimmed (ss ++ segs) = ss ++ trimmed segs := by
  induction segs using List.reverseRecOn with
  | nil => exact absurd rfl h
  | append_singleton segs seg ih =>
    by_cases hseg : seg = []
    · subst hseg
      have hdrop (ts : List (List Char)) : trimmed (ts ++ [[]]) = trimmed ts :=
        List.rdropWhile_concat_pos _ _ _ rfl
      rw [hdrop] at h
      rw [← List.append_assoc, hdrop, hdrop, ih h]
    · have hempty : ¬seg.isEmpty = true := by simpa using hseg
      rw [trimmed, trimmed, ← List.append_assoc, List.rdropWhile_concat_neg _ _ _ hempty,
        List.rdropWhile_concat_neg _ _ _ hempty, List.append_assoc]

lemma trimmed_append_of_eq_nil (ss : List (List Char)) (h : trimmed segs = [])
    (hss : ∀ s ∈ ss, s = []) : trimmed (ss ++ segs) = [] := by
  have hsegs := List.rdropWhile_eq_nil_iff.mp h
  refine List.rdropWhile_eq_nil_iff.mpr fun s hs => ?_
  rcases List.mem_append.mp hs with hs | hs
  · rw [hss s hs]; rfl
  · exact hsegs s hs

end TeamSync.Text
