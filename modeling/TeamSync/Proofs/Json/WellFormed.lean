import TeamSync.Proofs.Json.Objects

/-!
What is read is well formed. A declared record is read only from a node that a reader that keeps
nothing can pass over, down to the members that the record does not declare.
-/

namespace TeamSync.Json

lemma lift_eq_ok_iff {α : Type} {x : Except Malformed α} {a : α} :
    lift x = .ok a ↔ x = .ok a := by
  rcases x with e | b <;> simp [lift, Except.mapError]

/-- A string that breaks off has no bytes. -/
lemma Piece.broken_of_assemble {broken : Option StringBreak} {ps : List Piece} {bs : List UInt8}
    (h : assemble broken ps = .ok bs) : broken = none := by
  fun_induction assemble broken ps generalizing bs with
  | case1 hb => exact hb
  | case3 _ _ ih | case4 _ _ ih | case12 _ _ _ _ ih =>
    obtain ⟨bs', hbs, -⟩ := map_eq_ok_iff.mp h
    exact ih hbs
  | case6 =>
    rename_i ih
    obtain ⟨bs', hbs, -⟩ := map_eq_ok_iff.mp h
    exact ih hbs
  | _ => cases h

lemma StringLiteral.broken_of_read {s : StringLiteral} {t : String} (h : s.read = .ok t) :
    s.broken = none := by
  obtain ⟨bs, hbs, -⟩ := bind_eq_ok_iff.mp h
  exact Piece.broken_of_assemble hbs

namespace Decoder

variable {α β : Type}

lemma nested_eq_ok_iff {depth : ℕ} {k : ℕ → Except Fault α} {a : α} :
    nested depth k = .ok a ↔ ∃ d, depth = d + 1 ∧ k d = .ok a := by
  rcases depth with _ | d <;> simp [nested, fail]

lemma endEarly_eq_ok_iff {rest : List Node} {stop : ArrayEnd} {a b : α} :
    endEarly rest stop a = .ok b ↔ rest = [] ∧ stop = .closed ∧ a = b := by
  rcases rest with _ | ⟨n, ns⟩ <;> cases stop <;> simp [endEarly, fail]

lemma endOfMembers_eq_ok_iff {stop : ObjectEnd} {onKey : String → Except Fault Unit}
    {a b : α} : endOfMembers stop onKey a = .ok b ↔ stop = .closed ∧ a = b := by
  cases stop <;> simp [endOfMembers, fail, bind_eq_ok_iff]

/-- What a decoder reads is well formed in all its parts. -/
def Strict (d : Decoder α) : Prop := ∀ ⦃depth n a⦄, d depth n = .ok a → n.skim = .ok ()

lemma strict_string : Strict string := by
  intro depth n t h
  obtain ⟨s, rfl, hs⟩ := string_eq_ok_iff.mp h
  exact Skim.string_eq_ok_iff.mpr (StringLiteral.broken_of_read hs)

lemma Strict.map {d : Decoder α} (hd : d.Strict) (f : α → β) : (d.map f).Strict := by
  intro depth n b h
  obtain ⟨a, ha, -⟩ := map_eq_ok_iff.mp h
  exact hd ha

lemma Strict.nullable {d : Decoder α} (hd : d.Strict) : d.nullable.Strict := by
  intro depth n x h
  rcases nullable_eq_ok_iff.mp h with ⟨rfl, -⟩ | ⟨-, a, ha, -⟩
  · rfl
  · exact hd ha

end Decoder

namespace Record

variable {ρ : Type} {r : Record ρ} {depth : ℕ} {n : Node} {ms : Written}

lemma skim_of_readMember (hr : ∀ f ∈ r.fields, f.read.Strict) {p q : Progress ρ} {key : String}
    (h : r.readMember depth p key n = .ok q) : n.skim = .ok () := by
  rw [readMember] at h
  split at h
  · rename_i f hf
    obtain ⟨-, -, hread⟩ := bind_eq_ok_iff.mp h
    obtain ⟨change, hchange, -⟩ := bind_eq_ok_iff.mp hread
    exact hr f (List.mem_of_find?_eq_some hf) hchange
  · obtain ⟨_, hskim, -⟩ := bind_eq_ok_iff.mp h
    exact lift_eq_ok_iff.mp hskim

/-- All members are well formed if they are read, those that are not declared too. -/
lemma skim_of_readMembers (hr : ∀ f ∈ r.fields, f.read.Strict) {p q : Progress ρ}
    (h : r.readMembers depth p ms = .ok q) : skimMembers ms = .ok () := by
  induction ms generalizing p with
  | nil => rfl
  | cons m ms ih =>
    obtain ⟨k, n⟩ := m
    obtain ⟨key, hkey, hrest⟩ := bind_eq_ok_iff.mp h
    obtain ⟨p', hp, hq⟩ := bind_eq_ok_iff.mp hrest
    have hk := StringLiteral.broken_of_read (lift_eq_ok_iff.mp hkey)
    exact skimMembers_cons_iff.mpr ⟨hk, skim_of_readMember hr hp, ih hq⟩

/-- All elements are well formed if they are read by position and none is left over. -/
lemma skim_of_readElements {total : String} {stop : ArrayEnd} {i : ℕ} {x y : ρ}
    {fs : List (Field ρ)} {ns : List Node} (hf : ∀ f ∈ fs, f.read.Strict)
    (h : readElements total depth stop i x fs ns = .ok (y, [])) : ∀ n ∈ ns, n.skim = .ok () := by
  induction fs generalizing i x ns with
  | nil =>
    cases h
    simp
  | cons f fs ih =>
    rcases ns with _ | ⟨n, ns⟩
    · simp
    · obtain ⟨change, hchange, hrest⟩ := bind_eq_ok_iff.mp h
      refine List.forall_mem_cons.mpr ⟨hf f List.mem_cons_self hchange, ?_⟩
      exact ih (fun g hg => hf g (List.mem_cons_of_mem f hg)) hrest

/-- **A record is read from a well-formed node only**, if that is true of its fields. -/
theorem strict_decoder (hr : ∀ f ∈ r.fields, f.read.Strict) : r.decoder.Strict := by
  intro depth n x h
  rcases n with _ | b | l | s | ⟨ns, stop⟩ | ⟨ms, stop⟩ | ⟨ms, i⟩ | p | p
  case array =>
    obtain ⟨d, rfl, hread⟩ := Decoder.nested_eq_ok_iff.mp h
    obtain ⟨⟨y, rest⟩, helements, hend⟩ := bind_eq_ok_iff.mp hread
    obtain ⟨rfl, rfl, -⟩ := Decoder.endEarly_eq_ok_iff.mp hend
    exact skim_array_iff.mpr ⟨rfl, skim_of_readElements hr helements⟩
  case object =>
    obtain ⟨d, rfl, hread⟩ := Decoder.nested_eq_ok_iff.mp h
    obtain ⟨p, hmembers, hrest⟩ := bind_eq_ok_iff.mp hread
    obtain ⟨q, hend, -⟩ := bind_eq_ok_iff.mp hrest
    obtain ⟨rfl, -⟩ := Decoder.endOfMembers_eq_ok_iff.mp hend
    exact skim_object_iff.mpr ⟨rfl, skim_of_readMembers hr hmembers⟩
  case stray =>
    obtain ⟨d, rfl, hread⟩ := Decoder.nested_eq_ok_iff.mp h
    obtain ⟨p, -, hfail⟩ := bind_eq_ok_iff.mp hread
    cases hfail
  -- nothing else is a record
  all_goals exact absurd h Decoder.mismatch_ne_ok

end Record

/-- What a decoder makes of a text is what it makes of the node that the text scans to, and nothing
may follow that node. -/
lemma Decoder.decode_eq_ok_iff {α : Type} {d : Decoder α} {body : List UInt8} {a : α} :
    d.decode body = .ok a ↔ ∃ n, scan body = ⟨n, false⟩ ∧ d depthLimit n = .ok a := by
  rcases h : scan body with ⟨n, trailing⟩
  rcases trailing with _ | _
  · rw [decode_of_scan h]
    simp
  · simp [decode, h, bind_eq_ok_iff, fail]

end TeamSync.Json
