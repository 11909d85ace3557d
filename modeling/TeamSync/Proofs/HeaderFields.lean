import Mathlib.Data.List.Induction
import Mathlib.Data.Nat.Notation
import Mathlib.Tactic.Lemma
import TeamSync.Http.Header
import TeamSync.Proofs.Url.Segments

/-!
What becomes of header fields that are written one after the other. A name in any case has the
value of the last field that was written for it, and a field that HTTP does not allow is as if it
were not there.
-/

namespace TeamSync.Http

/-! ### Names -/

/-- Names that differ in case at most. -/
def SameName (a b : String) : Prop := a.toLower = b.toLower

instance (a b : String) : Decidable (SameName a b) :=
  inferInstanceAs (Decidable (a.toLower = b.toLower))

/-- Whether HTTP allows a field. -/
def isField (f : String × String) : Bool := (headerName? f.1).isSome && isHeaderValue f.2

variable {a b n : String}

/-- Whether a character may stand in a name has nothing to do with its case. -/
lemma isNameChar_toLower (c : Char) : isNameChar c.toLower = isNameChar c := by
  by_cases h : c.toNat < 0x80
  · refine Text.of_toNat_lt h ?_
    decide +kernel
  · have hbeyond : ¬(c.val ≥ 'A'.val ∧ c.val ≤ 'Z'.val) := fun hcap => h (by
      have hhi : c.toNat ≤ 90 := UInt32.le_iff_toNat_le.mp hcap.2
      omega)
    have hsame : c.toLower = c := dif_neg hbeyond
    rw [hsame]

/-- A name is judged by its form in lower case, and this is also what it is kept as. -/
lemma headerName?_eq (s : String) : headerName? s =
    if s.toLower.toList ≠ [] ∧ s.toLower.toList.length ≤ longestName ∧
      s.toLower.toList.all isNameChar then some s.toLower else none := by
  have hlist : s.toLower.toList = s.toList.map Char.toLower := String.toList_map
  have hof : String.ofList (s.toList.map Char.toLower) = s.toLower := by
    rw [← hlist, String.ofList_toList]
  have hall : (isNameChar ∘ Char.toLower) = isNameChar := funext isNameChar_toLower
  rw [headerName?, hof, hlist, List.length_map, List.all_map, hall]
  simp only [ne_eq, List.map_eq_nil_iff]

lemma headerName?_eq_some (h : headerName? a = some n) : n = a.toLower := by
  rw [headerName?_eq, Option.ite_none_right_eq_some, Option.some.injEq] at h
  exact h.2.symm

lemma headerName?_congr (h : SameName a b) : headerName? a = headerName? b := by
  have h : a.toLower = b.toLower := h
  rw [headerName?_eq, headerName?_eq, h]

namespace Headers

variable {f : String × String}

/-! ### One field -/

lemma get?_set (hs : Headers) (name value n : String) :
    (hs.set name value).get? n = if n = name then some value else hs.get? n := by
  induction hs with
  | nil =>
    rw [set, get?_cons]
    simp only [eq_comm]
  | cons h hs ih =>
    rw [set]
    by_cases hname : h.1 = name
    · rw [if_pos hname, get?_cons, get?_cons, hname]
      by_cases hn : n = name
      · rw [if_pos hn, if_pos hn.symm]
      · rw [if_neg hn, if_neg (Ne.symm hn), if_neg (Ne.symm hn)]
    · rw [if_neg hname, get?_cons, get?_cons, ih]
      by_cases hn : h.1 = n
      · rw [if_pos hn, if_pos hn, if_neg (hn ▸ hname)]
      · rw [if_neg hn, if_neg hn]

lemma add_of_isField (h : isField f = true) (hs : Headers) :
    hs.add f.1 f.2 = hs.set f.1.toLower f.2 := by
  obtain ⟨hname, hvalue⟩ := Bool.and_eq_true_iff.mp h
  obtain ⟨n, hn⟩ := Option.isSome_iff_exists.mp hname
  rw [add, hn, ← headerName?_eq_some hn]
  exact if_pos hvalue

lemma add_of_not_isField (h : isField f = false) (hs : Headers) : hs.add f.1 f.2 = hs := by
  rcases hn : headerName? f.1 with _ | n
  · rw [add, hn]
  · have hvalue : isHeaderValue f.2 = false := by simpa [isField, hn] using h
    rw [add, hn]
    simp [hvalue]

/-- A field that is allowed gives its value to its name in any case, and changes nothing else. -/
lemma value?_add (hs : Headers) (f : String × String) (name : String) :
    (hs.add f.1 f.2).value? name =
      if isField f ∧ SameName f.1 name then some f.2 else hs.value? name := by
  rcases hf : isField f with _ | _
  · rw [add_of_not_isField hf, if_neg (by simp)]
  · rw [add_of_isField hf, value?, value?]
    by_cases hsame : SameName f.1 name
    · obtain ⟨hname, -⟩ := Bool.and_eq_true_iff.mp hf
      obtain ⟨n, hn⟩ := Option.isSome_iff_exists.mp hname
      rw [if_pos ⟨rfl, hsame⟩, ← headerName?_congr hsame, hn, Option.bind_some, get?_set,
        if_pos (headerName?_eq_some hn)]
    · rw [if_neg fun h => hsame h.2]
      rcases hn : headerName? name with _ | n
      · rfl
      · have hne : n ≠ f.1.toLower := fun h => hsame (by
          rw [SameName, ← h, headerName?_eq_some hn])
        rw [Option.bind_some, Option.bind_some, get?_set, if_neg hne]

/-! ### All fields -/

lemma ofList_concat (fields : List (String × String)) (f : String × String) :
    ofList (fields ++ [f]) = (ofList fields).add f.1 f.2 := by
  simp [ofList]

/-- The value of the last of some fields that HTTP allows and that has the name. -/
def lastValue? (fields : List (String × String)) (name : String) : Option String :=
  (fields.filter fun f => isField f ∧ SameName f.1 name).getLast?.map (·.2)

/-- **The last field with a name counts**, whatever the case of the name. -/
theorem value?_ofList (fields : List (String × String)) (name : String) :
    (ofList fields).value? name = lastValue? fields name := by
  induction fields using List.reverseRecOn with
  | nil => cases h : headerName? name <;> simp [ofList, value?, lastValue?, get?, h]
  | append_singleton fields f ih =>
    rw [ofList_concat, value?_add, ih, lastValue?, lastValue?, List.filter_append]
    by_cases h : isField f = true ∧ SameName f.1 name
    · rw [if_pos h, List.filter_cons_of_pos (by simpa using h)]
      simp
    · rw [if_neg h, List.filter_cons_of_neg (by simpa using h)]
      simp

example : (ofList [("X-One", "1"), ("bad name", "x"), ("x-one", "2"), ("X-ONE", "a\nb")]).value?
    "X-oNE" = some "2" := by decide +kernel

/-- **A field that HTTP does not allow is as if it were not there.** -/
theorem ofList_filter (fields : List (String × String)) :
    ofList (fields.filter isField) = ofList fields := by
  induction fields using List.reverseRecOn with
  | nil => rfl
  | append_singleton fields f ih =>
    rw [List.filter_append, ofList_concat]
    rcases hf : isField f with _ | _
    · rw [List.filter_cons_of_neg (by simp [hf]), List.filter_nil, List.append_nil, ih,
        add_of_not_isField hf]
    · rw [List.filter_cons_of_pos hf, List.filter_nil, ofList_concat, ih]

end Headers

end TeamSync.Http
