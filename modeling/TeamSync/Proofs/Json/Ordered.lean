import TeamSync.Proofs.Json.ReadBack

/-!
Free-form values as they are kept: the members of each object stand in increasing order of their
keys, and all numbers are integers. Such a value is read back as it is, without being sorted, and no
other value is written like it.
-/

namespace TeamSync.Json

namespace Members

/-- The members stand in increasing order of their keys, so no key comes twice. -/
def Increasing (ms : Members) : Prop := ms.Pairwise fun m n => m.1 < n.1

/-- A member whose key is greater than all others goes to the end. -/
lemma insert_of_forall_lt {key : String} (v : Value) {ms : Members} (h : ∀ m ∈ ms, m.1 < key) :
    insert key v ms = ms ++ [(key, v)] := by
  induction ms with
  | nil => rfl
  | cons m ms ih =>
    have hrest : ∀ n ∈ ms, n.1 < key := fun n hn => h n (List.mem_cons_of_mem m hn)
    rw [insert_of_gt (h m List.mem_cons_self), ih hrest, List.cons_append]

/-- Members that come in increasing order go to the end one after the other. -/
lemma foldl_insert {acc ms : Members} (h : Increasing (acc ++ ms)) :
    ms.foldl (fun acc m => acc.insert m.1 m.2) acc = acc ++ ms := by
  induction ms generalizing acc with
  | nil => simp
  | cons m ms ih =>
    have hacc : ∀ n ∈ acc, n.1 < m.1 := fun n hn =>
      (List.pairwise_append.mp h).2.2 n hn m List.mem_cons_self
    have hnext : Increasing ((acc ++ [m]) ++ ms) := by simpa using h
    rw [List.foldl_cons, insert_of_forall_lt m.2 hacc, ih hnext, List.append_assoc]
    rfl

lemma ofList_of_increasing {ms : Members} (h : Increasing ms) : ofList ms = ms := by
  have hnil : Increasing ([] ++ ms) := h
  rw [ofList, foldl_insert hnil, List.nil_append]

end Members

mutual

/-- The members of every object in the value stand in increasing order of their keys. -/
def Value.Ordered : Value → Prop
  | .array vs => OrderedElements vs
  | .object ms => Members.Increasing ms ∧ OrderedMembers ms
  | _ => True

def OrderedElements : List Value → Prop
  | [] => True
  | v :: vs => v.Ordered ∧ OrderedElements vs

def OrderedMembers : List (String × Value) → Prop
  | [] => True
  | (_, v) :: ms => v.Ordered ∧ OrderedMembers ms

end

mutual

/-- A value whose members are ordered is not changed by sorting. -/
theorem Value.sorted_of_ordered : ∀ v : Value, v.Ordered → v.sorted = v
  | .null, _ | .bool _, _ | .number _, _ | .string _, _ => rfl
  | .array vs, h => by
    have h : OrderedElements vs := by simpa [Value.Ordered] using h
    rw [Value.sorted, sortedElements_of_ordered vs h]
  | .object ms, h => by
    have h : Members.Increasing ms ∧ OrderedMembers ms := by simpa [Value.Ordered] using h
    rw [Value.sorted, sortedMembers_of_ordered ms h.2, Members.ofList_of_increasing h.1]

/-- Ordered elements of an array are not changed by sorting. -/
theorem sortedElements_of_ordered : ∀ vs : List Value, OrderedElements vs → sortedElements vs = vs
  | [], _ => rfl
  | v :: vs, h => by
    have h : v.Ordered ∧ OrderedElements vs := by simpa [OrderedElements] using h
    rw [sortedElements, v.sorted_of_ordered h.1, sortedElements_of_ordered vs h.2]

/-- Ordered members of an object are not changed by sorting. -/
theorem sortedMembers_of_ordered :
    ∀ ms : List (String × Value), OrderedMembers ms → sortedMembers ms = ms
  | [], _ => rfl
  | (k, v) :: ms, h => by
    have h : v.Ordered ∧ OrderedMembers ms := by simpa [OrderedMembers] using h
    rw [sortedMembers, v.sorted_of_ordered h.1, sortedMembers_of_ordered ms h.2]

end

/-- A value as it is kept: its members are ordered and its numbers are integers. -/
structure Value.Kept (v : Value) : Prop where
  whole : v.whole = true
  ordered : v.Ordered

/-- **A value as it is kept is read back as it is**, if it is not nested too deep. -/
theorem Value.Kept.value_node {v : Value} (h : v.Kept) {depth : ℕ} (hd : v.depth ≤ depth) :
    v.node.value depth = .ok v := by
  rw [Json.value_node v h.whole hd, v.sorted_of_ordered h.ordered]

lemma Decoder.members_node {ms : Members} (h : (Value.object ms).Kept) {depth : ℕ}
    (hd : (Value.object ms).depth ≤ depth) : members depth (Value.object ms).node = .ok ms := by
  have hv := h.value_node hd
  simp only [Value.node] at hv ⊢
  simp only [members, hv]
  rfl

/-- Values that are written alike have the same structure. -/
lemma Value.node_of_toText {v w : Value} (hv : v.whole = true) (hw : w.whole = true)
    (h : v.toText = w.toText) : v.node = w.node := by
  have hs : scan (Utf8.ofString v.toText) = scan (Utf8.ofString w.toText) := by rw [h]
  rw [scan_toText hv, scan_toText hw] at hs
  exact congrArg Document.root hs

end TeamSync.Json
