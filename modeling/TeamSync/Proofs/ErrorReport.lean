import TeamSync.Proofs.EnvelopeParts
import TeamSync.Proofs.RateReport
import TeamSync.Proofs.RoundTrip

/-!
What an error says of itself. The tag and the summary of an answer come through to the message, and
the labels that an error is put under stand in front of its message and change nothing else of what
a caller asks of it.
-/

namespace TeamSync

open Json

/-! ### From the body of an answer -/

section

attribute [local simp] Record.readMember Record.refuseTwice Record.complete Field.defaulted

lemma tagRecord_node (name : String) (depth : ℕ) (tag : String) :
    (tagRecord name).decoder (depth + 1) (Sample.tagged tag).node = .ok tag := by
  simp [tagRecord, Sample.tagged]

/-- What is written as the body of an error is read as it was. -/
lemma Envelope.parse?_errorBody (tag : String) (summary : Option String) :
    parse? (Utf8.ofString (Sample.errorBody tag summary).toText) =
      some ⟨summary.getD "", some tag⟩ := by
  have htag : (tagRecord "ErrorTag").decoder.nullable (125 + 1) (Sample.tagged tag).node =
      .ok (some tag) := by
    refine Decoder.nullable_node (tagRecord_node "ErrorTag" 125) (fun t => ?_) (some tag)
    simp [Sample.tagged, Value.node]
  have hw : (Sample.errorBody tag summary).whole = true := by rcases summary with _ | m <;> rfl
  have hd : record.decoder (126 + 1) (Sample.errorBody tag summary).node =
      .ok ⟨summary.getD "", some tag⟩ := by
    rcases summary with _ | m
    · simp [Sample.errorBody, record, htag]
      rfl
    · simp [Sample.errorBody, record, htag]
  rw [parse?, Decoder.decode_toText hw hd]
  rfl

end

/-! ### In the message -/

namespace ApiError

/-- The text of an error is that of the envelope that it is made of, or of an empty one. -/
lemma text_ofEnvelope (status : ℕ) (v : Option Envelope) (limit : RateLimit) :
    (ofEnvelope status v limit).text = (v.getD Envelope.record.empty).text := by
  rcases v with _ | v <;> rfl

variable {e : ApiError} {t : String}

/-- The summary of an error is part of its message. -/
lemma summary_infix_message (h : e.summary = some t) : t.toList <:+: e.message.toList := by
  have htext : e.text = t := by simp [text, h]
  rw [message, htext, String.toList_append, String.toList_append]
  exact List.infix_append _ _ _

/-- The tag of an error is part of its message. -/
lemma tag_infix_message (h : e.tag = some t) : t.toList <:+: e.message.toList := by
  rcases hs : e.summary with _ | m
  · have htext : e.text = t := by simp [text, h, hs]
    rw [message, htext, String.toList_append, String.toList_append]
    exact List.infix_append _ _ _
  · -- the text is the summary, and the tag stands behind it
    have hbehind : t.toList <:+: (" (tag: " ++ t ++ ")").toList := by
      rw [String.toList_append, String.toList_append]
      exact List.infix_append _ _ _
    rw [message, h, hs, String.toList_append]
    exact hbehind.trans (List.suffix_append _ _).isInfix

end ApiError

namespace Error

/-! ### On the way -/

variable (e : Error) (labels : List Label)

lemma api?_under : (e.under labels).api? = e.api? := by
  rw [api?, root_under, api?]

lemma serviceTag?_under : (e.under labels).serviceTag? = e.serviceTag? := by
  rw [serviceTag?, api?_under, serviceTag?]

lemma httpStatus?_under : (e.under labels).httpStatus? = e.httpStatus? := by
  rw [httpStatus?, api?_under, httpStatus?]

lemma code_under : (e.under labels).code = e.code := by
  induction labels generalizing e with
  | nil => rfl
  | cons label labels ih => exact ih (.within label e)

lemma errorClass_under : (e.under labels).errorClass = e.errorClass := by
  induction labels generalizing e with
  | nil => rfl
  | cons label labels ih => exact ih (.within label e)

/-- The labels stand in front of the message, outermost first. -/
lemma message_under : (e.under labels).message =
    String.join (labels.reverse.map fun l => l.name ++ ": ") ++ e.message := by
  induction labels generalizing e with
  | nil => simp [under]
  | cons l labels ih =>
    have hwithin : (within l e).message = l.name ++ ": " ++ e.message := rfl
    have hunder : e.under (l :: labels) = (within l e).under labels := rfl
    rw [hunder, ih, hwithin, List.reverse_cons, List.map_append, String.join_append]
    simp [String.append_assoc]

lemma absorbs_under (allowed : AllowList) (kind : MutationKind) :
    allowed.absorbs kind (e.under labels) = allowed.absorbs kind e := by
  rw [AllowList.absorbs, api?_under, AllowList.absorbs]

/-- Whether a change counts as done already is settled by the root of an error. -/
lemma settle_under (kind : MutationKind) (allowed : AllowList) (s : Session) :
    settle kind allowed (.error (e.under labels)) s =
      ((settle kind allowed (.error e) s).1.mapError (·.under labels),
        (settle kind allowed (.error e) s).2) := by
  rw [settle_eq_blind, settle_eq_blind]
  simp only [settling, absorbs_under, MutationOutcome.absorbed, serviceTag?_under, rateLimit?_under]
  split_ifs
  · rfl
  · rfl

end Error

/-- **What an error says of itself.** The body of an error that is written with some tag and summary
is read as these, and the error that is made of an envelope says what the envelope says, with the
tag and the summary in its message unless they are empty. When an error is put under labels, these
come before its message, the last one first, and nothing else that a caller asks of it changes:
neither what it is nor whether a change counts as done already. -/
theorem Error.inspection_stable :
    (∀ tag summary, ∃ v,
      Envelope.parse? (Utf8.ofString (Sample.errorBody tag summary).toText) = some v ∧
      v.tag? = (if tag = "" then none else some tag) ∧ v.summary = summary.getD "") ∧
    (∀ status (v : Option Envelope) limit,
      let e := ApiError.ofEnvelope status v limit
      e.text = (v.getD ⟨"", none⟩).text ∧
      (∀ t, v.bind (·.tag) = some t → t ≠ "" → t.toList <:+: e.message.toList) ∧
      ∀ m, v.map (·.summary) = some m → m ≠ "" → m.toList <:+: e.message.toList) ∧
    ∀ (e : Error) (labels : List Label),
      (e.under labels).root = e.root ∧ (e.under labels).code = e.code ∧
      (e.under labels).errorClass = e.errorClass ∧ (e.under labels).serviceTag? = e.serviceTag? ∧
      (e.under labels).httpStatus? = e.httpStatus? ∧ (e.under labels).rateLimit? = e.rateLimit? ∧
      (∀ kind allowed s, settle kind allowed (.error (e.under labels)) s =
        ((settle kind allowed (.error e) s).1.mapError (·.under labels),
          (settle kind allowed (.error e) s).2)) ∧
      (e.under labels).message =
        String.join (labels.reverse.map fun l => l.name ++ ": ") ++ e.message := by
  refine ⟨fun tag summary => ?body, fun status v limit => ?message, fun e labels => ?way⟩
  case body =>
    refine ⟨_, Envelope.parse?_errorBody tag summary, ?_, rfl⟩
    by_cases ht : tag = "" <;> simp [Envelope.tag?, ht]
  case message =>
    refine ⟨ApiError.text_ofEnvelope status v limit, fun t ht hne => ?_, fun m hm hne => ?_⟩
    · obtain ⟨v, rfl, ht⟩ := Option.bind_eq_some_iff.mp ht
      exact ApiError.tag_infix_message (ApiError.tag_ofEnvelope.mpr ⟨hne, ht⟩)
    · obtain ⟨v, rfl, hv⟩ := Option.map_eq_some_iff.mp hm
      exact ApiError.summary_infix_message (ApiError.summary_ofEnvelope.mpr ⟨hne, hv⟩)
  case way =>
    exact ⟨e.root_under labels, e.code_under labels, e.errorClass_under labels,
      e.serviceTag?_under labels, e.httpStatus?_under labels, e.rateLimit?_under labels,
      e.settle_under labels, e.message_under labels⟩

example : (((Error.network .timeout).under [⟨"mutation"⟩]).wrap [.listMembers]).message =
    "list members: mutation: Network error: Request timed out" := by decide +kernel

end TeamSync
