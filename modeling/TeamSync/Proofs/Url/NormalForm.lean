import Mathlib.Data.List.Basic
import Mathlib.Tactic.SplitIfs
import TeamSync.Proofs.Url.Tables

/-!
Names in ASCII are normal. All that is not a capital is kept and is neither composed nor a mark, so
a text of such characters is its own mapping and its own normal form; and no name has a capital once
it is mapped.
-/

namespace TeamSync.Url.Domain

open Text

/-! ### Replacing -/

lemma isCapital_iff {n : ℕ} : isCapital n = true ↔ 0x41 ≤ n ∧ n ≤ 0x5A := by
  simp [isCapital]

lemma isCapital_eq_false {n : ℕ} (h : 0x5A < n) : isCapital n = false := by
  rw [Bool.eq_false_iff, ne_eq, isCapital_iff]; omega

variable {n : ℕ} {ns ms : List ℕ}

/-- What a character is replaced with has no capital, and no ASCII character but a capital is
replaced. -/
lemma replaced_get? (h : replaced.get? n = some ms) :
    (∀ m ∈ ms, isCapital m = false) ∧ (n < 0x80 → isCapital n = true) := by
  obtain ⟨r, hr, hget⟩ := Table.exists_row_of_get? h
  have hrow := List.all_eq_true.mp mapsPlainly_replaced r hr
  obtain ⟨hfirst, hlast, hvalues⟩ := Table.exists_value_of_get? hget
  simp only [mapsPlainly, Bool.and_eq_true, Bool.or_eq_true, decide_eq_true_eq,
    List.all_eq_true] at hrow
  obtain ⟨hrange, hall⟩ := hrow
  constructor
  · intro m hm
    obtain ⟨v, hv, hlo, hhi⟩ := hvalues m hm
    have := hall v hv
    rw [Bool.eq_false_iff, ne_eq, isCapital_iff]
    omega
  · intro hn
    rw [isCapital_iff]
    omega

/-- The capitals are replaced. -/
lemma replaced_get?_capital (h : isCapital n = true) : replaced.get? n ≠ none := by
  have hhead : replaced.head? = some ⟨0x41, 0x5A, .growing, [0x61]⟩ := by decide +kernel
  have hmem := List.mem_of_mem_head? hhead
  rw [isCapital_iff] at h
  intro hnone
  have hrow := List.findSome?_eq_none_iff.mp hnone _ hmem
  simp [Row.get?, h] at hrow

lemma refused_contains (h : n < 0x80) : refused.contains n = false := by
  rw [Table.contains, Table.get?_eq_none le_first_refused h]; rfl

/-- Nothing is replaced with a capital. -/
lemma isCapital_of_mem_replace? (h : replace? n = some ms) : ∀ m ∈ ms, isCapital m = false := by
  unfold replace? at h
  generalize hget : replaced.get? n = found at h
  cases found with
  | some ks =>
    rw [← Option.some.inj h]
    exact (replaced_get? hget).1
  | none =>
    simp only [Option.ite_none_left_eq_some, Option.some.injEq] at h
    rw [← h.2, List.forall_mem_singleton, Bool.eq_false_iff]
    exact fun hcap => replaced_get?_capital hcap hget

/-- ASCII without capitals is not replaced. -/
lemma replace?_of_lt (h : n < 0x80) (hcap : isCapital n = false) : replace? n = some [n] := by
  have hget : replaced.get? n = none := by
    refine Option.eq_none_iff_forall_ne_some.mpr fun ms hms => ?_
    rw [(replaced_get? hms).2 h] at hcap
    exact Bool.noConfusion hcap
  unfold replace?
  simp only [hget, refused_contains h, Bool.false_eq_true, if_false]

/-! ### The normal form -/

open Composition

lemma classOf_of_lt (h : n < 0x80) : classOf n = 0 := by
  rw [classOf, Table.get?_eq_none le_first_classes h]; rfl

lemma pairs_row {r : Row} (h : r ∈ pairs) : 0x80 ≤ r.first ∧ r.rule = .fixed ∧
    ∃ a b, r.values = [a, b] ∧ isCapital a = false ∧ 0x80 ≤ b := by
  have hrow := List.all_eq_true.mp composesPlainly_pairs r h
  simp only [composesPlainly, Bool.and_eq_true, decide_eq_true_eq] at hrow
  obtain ⟨⟨hfirst, hrule⟩, hvalues⟩ := hrow
  split at hvalues
  · next a b hab =>
    simp only [Bool.and_eq_true, Bool.not_eq_true', decide_eq_true_eq] at hvalues
    exact ⟨hfirst, hrule, a, b, hab, hvalues⟩
  · exact Bool.noConfusion hvalues

/-- The parts of a character are no capitals. -/
lemma isCapital_of_partsOf? {a b : ℕ} (h : partsOf? n = some (a, b)) :
    0x80 ≤ n ∧ isCapital a = false ∧ isCapital b = false := by
  unfold partsOf? at h
  split at h
  · next hsyllable =>
    have hlo : 0xAC00 ≤ n := hsyllable.1
    have hmod : (n - firstSyllable) % tailCount < 28 := Nat.mod_lt _ (by decide)
    have hadd {k : ℕ} (hk : 0x5A < k) (i : ℕ) : isCapital (k + i) = false :=
      isCapital_eq_false (Nat.lt_add_right i hk)
    simp only at h
    split at h
    all_goals
      simp only [Option.some.injEq, Prod.mk.injEq] at h
      obtain ⟨rfl, rfl⟩ := h
    · exact ⟨by omega, hadd (by decide) _, hadd (by decide) _⟩
    · exact ⟨by omega, isCapital_eq_false (by omega), hadd (by decide) _⟩
  · cases hget : pairs.get? n with
    | none => simp [hget] at h
    | some ks =>
      obtain ⟨r, hr, hrow⟩ := Table.exists_row_of_get? hget
      obtain ⟨hfirst, hrule, a', b', hvalues, ha, hb⟩ := pairs_row hr
      have hrange := (Table.exists_value_of_get? hrow).1
      have hks : ks = [a', b'] := by
        simp only [Row.get?, hrule, hvalues, Option.ite_none_right_eq_some,
          Option.some.injEq] at hrow
        exact hrow.2.symm
      simp only [hget, hks, Option.some.injEq, Prod.mk.injEq] at h
      obtain ⟨rfl, rfl⟩ := h
      exact ⟨by omega, ha, isCapital_eq_false (by omega)⟩

/-- What is composed lies beyond ASCII, and so does the second of its parts. -/
lemma le_of_compose? {a b c : ℕ} (h : compose? a b = some c) : 0x80 ≤ c ∧ 0x80 ≤ b := by
  rw [compose?] at h
  split_ifs at h with hlead htail
  · rw [← Option.some.inj h]
    simp only [firstSyllable, firstVowel] at hlead ⊢
    omega
  · rw [← Option.some.inj h]
    simp only [firstSyllable, firstTail] at htail ⊢
    omega
  · obtain ⟨r, hr, rfl⟩ := Option.map_eq_some_iff.mp h
    obtain ⟨hfirst, -, a', b', hvalues, -, hb⟩ := pairs_row (List.mem_of_find?_eq_some hr)
    have hab : r.values = [a, b] := by simpa using List.find?_some hr
    rw [hab, List.cons.injEq, List.cons.injEq] at hvalues
    exact ⟨hfirst, hvalues.2.1 ▸ hb⟩

/-! ### Texts in ASCII -/

lemma takeApart_of_lt (h : n < 0x80) (depth : ℕ) : takeApart depth n = [n] := by
  cases depth with
  | zero => rfl
  | succ depth =>
    have hparts : partsOf? n = none := by
      refine Option.eq_none_iff_forall_ne_some.mpr fun ⟨a, b⟩ hab => ?_
      have := (isCapital_of_partsOf? hab).1
      omega
    rw [takeApart, hparts]

/-- Nothing in ASCII is a mark, so the order stays. -/
lemma sortMarks_of_lt (h : ∀ n ∈ ns, n < 0x80) : sortMarks ns = ns := by
  have hplace (acc : List ℕ) : ns.foldl (fun acc n => place n acc) acc = ns.reverse ++ acc := by
    induction ns generalizing acc with
    | nil => rfl
    | cons n ns ih =>
      have hn : place n acc = n :: acc := by
        cases acc <;> simp [place, classOf_of_lt (h n List.mem_cons_self)]
      rw [List.foldl_cons, hn, ih fun m hm => h m (List.mem_cons_of_mem _ hm)]
      simp
  rw [sortMarks, hplace, List.append_nil, List.reverse_reverse]

/-- Nothing in ASCII is composed. -/
lemma putTogether_of_lt (h : ∀ m ∈ ns, m < 0x80) : putTogether n [] ns = n :: ns := by
  induction ns generalizing n with
  | nil => rfl
  | cons m ms ih =>
    have hm := h m List.mem_cons_self
    have hnone : compose? n m = none := by
      refine Option.eq_none_iff_forall_ne_some.mpr fun c hc => ?_
      have := (le_of_compose? hc).2
      omega
    have hstep : putTogether n [] (m :: ms) = n :: putTogether m [] ms := by
      conv_lhs => unfold putTogether
      simp only [Bool.false_eq_true, if_false, hnone, if_pos (classOf_of_lt hm)]
      rfl
    rw [hstep, ih fun k hk => h k (List.mem_cons_of_mem _ hk)]

/-- **A text in ASCII is its own normal form.** -/
theorem normalize_of_lt (h : ∀ n ∈ ns, n < 0x80) : Composition.normalize ns = ns := by
  have hapart : ns.flatMap (takeApart Composition.depth) = ns := by
    rw [List.flatMap_congr fun n hn => takeApart_of_lt (h n hn) _, List.flatMap_singleton']
  rw [Composition.normalize, hapart, sortMarks_of_lt h]
  cases ns with
  | nil => rfl
  | cons n ns =>
    rw [assemble, if_pos (classOf_of_lt (h n List.mem_cons_self)),
      putTogether_of_lt fun m hm => h m (List.mem_cons_of_mem _ hm)]

/-! ### Capitals -/

lemma isCapital_of_mem_takeApart {depth m : ℕ} (hn : isCapital n = false)
    (h : m ∈ takeApart depth n) : isCapital m = false := by
  induction depth generalizing n m with
  | zero => exact List.mem_singleton.mp h ▸ hn
  | succ depth ih =>
    rw [takeApart] at h
    split at h
    · next a b hab =>
      obtain ⟨-, ha, hb⟩ := isCapital_of_partsOf? hab
      rcases List.mem_append.mp h with h | h
      · exact ih ha h
      · exact List.mem_singleton.mp h ▸ hb
    · exact List.mem_singleton.mp h ▸ hn

lemma mem_place {m : ℕ} (h : m ∈ place n ns) : m = n ∨ m ∈ ns := by
  induction ns with
  | nil => exact .inl (List.mem_singleton.mp h)
  | cons k ks ih =>
    rw [place] at h
    split at h
    · rcases List.mem_cons.mp h with rfl | h
      · exact .inr List.mem_cons_self
      · exact (ih h).imp_right (List.mem_cons_of_mem _)
    · exact List.mem_cons.mp h

lemma mem_sortMarks {m : ℕ} (h : m ∈ sortMarks ns) : m ∈ ns := by
  have hfold (acc : List ℕ) (hm : m ∈ ns.foldl (fun acc n => place n acc) acc) :
      m ∈ acc ∨ m ∈ ns := by
    clear h
    induction ns generalizing acc with
    | nil => exact .inl hm
    | cons n ns ih =>
      rcases ih _ hm with h | h
      · exact (mem_place h).elim (fun h => .inr (h ▸ List.mem_cons_self)) .inl
      · exact .inr (List.mem_cons_of_mem _ h)
  rw [sortMarks, List.mem_reverse] at h
  exact (hfold [] h).resolve_left List.not_mem_nil

/-- A character is composed with the one before it, or ends it, or stays behind it. -/
lemma putTogether_cons (n k : ℕ) (behind ks : List ℕ) :
    (∃ c, 0x80 ≤ c ∧ putTogether n behind (k :: ks) = putTogether c behind ks) ∨
      putTogether n behind (k :: ks) = n :: behind.reverse ++ putTogether k [] ks ∨
      putTogether n behind (k :: ks) = putTogether n (k :: behind) ks := by
  generalize hall : putTogether n behind (k :: ks) = out
  unfold putTogether at hall
  simp only at hall
  split at hall
  · next c hc =>
    rw [Option.ite_none_left_eq_some] at hc
    exact .inl ⟨c, (le_of_compose? hc.2).1, hall.symm⟩
  · split at hall
    · exact .inr (.inl hall.symm)
    · exact .inr (.inr hall.symm)

/-- What is put together are the characters that there were and characters beyond ASCII. -/
lemma mem_putTogether {m : ℕ} {behind : List ℕ} (h : m ∈ putTogether n behind ns) :
    m ∈ n :: behind ++ ns ∨ 0x80 ≤ m := by
  induction ns generalizing n behind with
  | nil =>
    unfold putTogether at h
    simpa using Or.inl h
  | cons k ks ih =>
    rcases putTogether_cons n k behind ks with ⟨c, hc, heq⟩ | heq | heq
    · rw [heq] at h
      rcases ih h with h | h
      · simp only [List.cons_append, List.mem_cons, List.mem_append] at h ⊢
        rcases h with rfl | h | h
        · exact .inr hc
        · exact .inl (.inr (.inl h))
        · exact .inl (.inr (.inr (.inr h)))
      · exact .inr h
    · rw [heq] at h
      simp only [List.cons_append, List.mem_cons, List.mem_append, List.mem_reverse] at h
      rcases h with rfl | h | h
      · exact .inl List.mem_cons_self
      · exact .inl (List.mem_append_left _ (List.mem_cons_of_mem _ h))
      · exact (ih h).imp_left fun h => List.mem_append_right _ (by simpa using h)
    · rw [heq] at h
      refine (ih h).imp_left fun h => ?_
      simp only [List.cons_append, List.mem_cons, List.mem_append] at h ⊢
      rcases h with h | h | h | h
      · exact .inl h
      · exact .inr (.inr (.inl h))
      · exact .inr (.inl h)
      · exact .inr (.inr (.inr h))

lemma mem_assemble {m : ℕ} (h : m ∈ assemble ns) : m ∈ ns ∨ 0x80 ≤ m := by
  induction ns with
  | nil => exact .inl h
  | cons n ns ih =>
    rw [assemble] at h
    split at h
    · exact mem_putTogether h
    · rcases List.mem_cons.mp h with rfl | h
      · exact .inl List.mem_cons_self
      · exact (ih h).imp_left (List.mem_cons_of_mem _)

/-- **The normal form of a text without capitals has none.** -/
theorem isCapital_of_mem_normalize (hns : ∀ n ∈ ns, isCapital n = false) :
    ∀ m ∈ Composition.normalize ns, isCapital m = false := by
  intro m hm
  rcases mem_assemble hm with hm | hm
  · obtain ⟨n, hn, hm⟩ := List.mem_flatMap.mp (mem_sortMarks hm)
    exact isCapital_of_mem_takeApart (hns n hn) hm
  · exact isCapital_eq_false (by omega)

end TeamSync.Url.Domain
