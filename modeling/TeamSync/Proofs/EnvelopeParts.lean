import TeamSync.Proofs.Call
import TeamSync.Proofs.Json.WellFormed
import TeamSync.Sample

/-!
What an answer outside the 2xx range tells of its error, part by part. Its body is read as a whole:
the summary and the tag are told if each of the two members that hold them is well shaped, and if
one is not, neither is told.
-/

namespace TeamSync

open Json

/-! ### Tags -/

lemma nodup_tagRecord (name : String) : ((tagRecord name).fields.map (·.name)).Nodup := by
  simp [tagRecord]

lemma slot_tagRecord (name : String) : (tagRecord name).Slot ".tag" Decoder.string id :=
  Record.slot_of_mem (nodup_tagRecord name) List.mem_cons_self (fun _ _ => rfl)
    (by simp [tagRecord, Field.defaulted])

namespace Envelope

/-- What can stand under `error` in an envelope, and the tag that is read there. -/
inductive HoldsTag : Node → Option String → Prop where
  | null : HoldsTag .null none
  | tagged {es : Written} {t : String} (keys : ∀ m ∈ es, ∃ key, m.1.read = .ok key)
      (once : es.keys.count ".tag" ≤ 1) (tag : es.Says ".tag" t) :
      HoldsTag (.object es .closed) (some t)
  | untagged {es : Written} (keys : ∀ m ∈ es, ∃ key, m.1.read = .ok key)
      (absent : ".tag" ∉ es.keys) : HoldsTag (.object es .closed) (some "")
  | listed {s : StringLiteral} {t : String} (read : s.read = .ok t) :
      HoldsTag (.array [.string s] .closed) (some t)
  | unlisted : HoldsTag (.array [] .closed) (some "")

/-- A tag is held by everything but `null`, if only the empty one. -/
lemma exists_holdsTag_iff {n : Node} {x : Option String} (hn : n ≠ .null) :
    (∃ t, HoldsTag n (some t) ∧ x = some t) ↔ HoldsTag n x := by
  constructor
  · rintro ⟨t, h, rfl⟩
    exact h
  · intro h
    cases h with
    | null => exact absurd rfl hn
    | tagged keys once tag => exact ⟨_, .tagged keys once tag, rfl⟩
    | untagged keys absent => exact ⟨_, .untagged keys absent, rfl⟩
    | listed read => exact ⟨_, .listed read, rfl⟩
    | unlisted => exact ⟨_, .unlisted, rfl⟩

variable {name : String} {depth : ℕ} {n : Node} {es : Written} {t : String} {x : Option String}

lemma fits_tagRecord : (tagRecord name).Fits depth es ↔
    (∀ m ∈ es, ∃ key, m.1.read = .ok key) ∧ es.keys.count ".tag" ≤ 1 ∧
      ∀ n, es.Has ".tag" n → ∃ t, Decoder.string depth n = .ok t := by
  have honce : ((tagRecord name).taken es).Nodup ↔ es.keys.count ".tag" ≤ 1 := by
    rw [Record.nodup_taken_iff]
    simp [tagRecord, Field.defaulted, Field.make]
  have hread : (∀ f ∈ (tagRecord name).fields, ∀ n, es.Has f.name n →
      ∃ change, f.read depth n = .ok change) ↔
      ∀ n, es.Has ".tag" n → ∃ t, Decoder.string depth n = .ok t := by
    simp only [tagRecord, Field.defaulted, List.forall_mem_singleton, Field.read_make_eq_ok]
    simp [Field.make]
  rw [← honce, ← hread]
  exact ⟨fun h => ⟨h.keys, h.once, h.read⟩, fun h => ⟨h.1, h.2.1, h.2.2⟩⟩

/-- An object is read as a tag as it stands. -/
lemma tagDecoder_object_iff (hs : skimMembers es = .ok ()) :
    (tagRecord name).decoder (depth + 1) (.object es .closed) = .ok t ↔
      HoldsTag (.object es .closed) (some t) := by
  have hread : (∃ t, (tagRecord name).decoder (depth + 1) (.object es .closed) = .ok t) ↔
      (tagRecord name).Fits depth es := by
    rw [Record.exists_decoder_iff (nodup_tagRecord name) hs]
    simp [tagRecord, Field.defaulted, Field.make]
  have hslot {t : String} (h : (tagRecord name).decoder (depth + 1) (.object es .closed) = .ok t) :
      (∀ n, es.Has ".tag" n → Decoder.string depth n = .ok t) ∧ (".tag" ∉ es.keys → t = "") :=
    Record.slot_of_decoder (nodup_tagRecord name) hs (slot_tagRecord name) h
  constructor
  · intro h
    obtain ⟨hkeys, honce, -⟩ := fits_tagRecord.mp (hread.mp ⟨t, h⟩)
    by_cases htag : ".tag" ∈ es.keys
    · obtain ⟨n, hn⟩ := Written.exists_has htag
      obtain ⟨s, rfl, hst⟩ := Decoder.string_eq_ok_iff.mp ((hslot h).1 n hn)
      exact .tagged hkeys honce ⟨s, hn, hst⟩
    · rw [(hslot h).2 htag]
      exact .untagged hkeys htag
  · intro h
    generalize hx : some t = x at h
    cases h with
    | @tagged _ t' hkeys honce htag =>
      obtain rfl := Option.some.inj hx
      obtain ⟨s, hs, hst⟩ := htag
      have hfits : (tagRecord name).Fits depth es := by
        refine fits_tagRecord.mpr ⟨hkeys, honce, fun n hn => ⟨t, ?_⟩⟩
        rw [hn.unique hs honce]
        exact Decoder.string_eq_ok_iff.mpr ⟨s, rfl, hst⟩
      obtain ⟨t', ht'⟩ := hread.mpr hfits
      obtain ⟨s', hs', hst'⟩ := Decoder.string_eq_ok_iff.mp ((hslot ht').1 _ hs)
      cases hs'
      rw [hst] at hst'
      cases hst'
      exact ht'
    | untagged hkeys habsent =>
      obtain rfl := Option.some.inj hx
      have hfits : (tagRecord name).Fits depth es := fits_tagRecord.mpr
        ⟨hkeys, by rw [List.count_eq_zero.mpr habsent]; omega,
          fun n hn => absurd hn.mem_keys habsent⟩
      obtain ⟨t', ht'⟩ := hread.mpr hfits
      rw [ht', (hslot ht').2 habsent]

/-- An array is read as a tag if it is empty or holds a text and nothing more. -/
lemma tagDecoder_array_iff {ns : List Node} :
    (tagRecord name).decoder (depth + 1) (.array ns .closed) = .ok t ↔
      HoldsTag (.array ns .closed) (some t) := by
  rcases ns with _ | ⟨n, _ | ⟨n', ns⟩⟩
  · have hread : (tagRecord name).decoder (depth + 1) (.array [] .closed) = .ok "" := rfl
    rw [hread]
    constructor
    · intro h
      obtain rfl := Except.ok.inj h
      exact .unlisted
    · rintro ⟨⟩
      rfl
  · have hread : (tagRecord name).decoder (depth + 1) (.array [n] .closed) =
        Decoder.string depth n := by
      simp only [Record.decoder, Decoder.nested, tagRecord, Field.defaulted, Field.make,
        Record.readElements, Decoder.map]
      rcases Decoder.string depth n with e | t <;> rfl
    rw [hread, Decoder.string_eq_ok_iff]
    constructor
    · rintro ⟨s, rfl, hs⟩
      exact .listed hs
    · rintro ⟨⟩
      exact ⟨_, rfl, ‹_›⟩
  · have hread : (tagRecord name).decoder (depth + 1) (.array (n :: n' :: ns) .closed) ≠ .ok t := by
      simp only [Record.decoder, Decoder.nested, tagRecord, Field.defaulted, Field.make,
        Record.readElements, Decoder.map]
      rcases Decoder.string depth n with e | t <;>
        simp [Except.map, bind, Except.bind, Decoder.endEarly, fail]
    constructor
    · intro h
      exact absurd h hread
    · rintro ⟨⟩

/-- **What is read as a tag.** -/
theorem tagDecoder_eq_ok_iff (name : String) (depth : ℕ) (hs : n.skim = .ok ()) :
    (tagRecord name).decoder.nullable (depth + 1) n = .ok x ↔ HoldsTag n x := by
  rw [Decoder.nullable_eq_ok_iff]
  rcases n with _ | b | l | s | ⟨ns, stop⟩ | ⟨es, stop⟩ | ⟨es, i⟩ | p | p
  case null =>
    constructor
    · rintro (⟨-, rfl⟩ | ⟨h, -⟩)
      · exact .null
      · exact absurd rfl h
    · rintro ⟨⟩
      exact .inl ⟨rfl, rfl⟩
  case array =>
    obtain ⟨rfl, -⟩ := skim_array_iff.mp hs
    simp only [reduceCtorEq, false_and, false_or, ne_eq, not_false_eq_true, true_and,
      tagDecoder_array_iff]
    exact exists_holdsTag_iff nofun
  case object =>
    obtain ⟨rfl, hms⟩ := skim_object_iff.mp hs
    simp only [reduceCtorEq, false_and, false_or, ne_eq, not_false_eq_true, true_and,
      tagDecoder_object_iff hms]
    exact exists_holdsTag_iff nofun
  case stray => exact absurd hs skim_stray_ne_ok
  -- nothing else is read, and nothing else holds a tag
  all_goals
    constructor
    · simp [Record.decoder, Decoder.mismatch_ne_ok]
    · rintro ⟨⟩

/-! ### Whole envelopes -/

variable {ms : Written} {body : List UInt8} {e : Envelope}

/-- What the members of an object say as an envelope. What they do not say is empty. -/
structure Shows (ms : Written) (e : Envelope) : Prop where
  keys : ∀ m ∈ ms, ∃ key, m.1.read = .ok key
  summary : ∀ n, ms.Has "error_summary" n → ∃ s, n = .string s ∧ s.read = .ok e.summary
  noSummary : "error_summary" ∉ ms.keys → e.summary = ""
  tag : ∀ n, ms.Has "error" n → HoldsTag n e.tag
  noTag : "error" ∉ ms.keys → e.tag = none

lemma nodup_record : (record.fields.map (·.name)).Nodup := by
  simp [record, Field.defaulted, Field.make]

lemma slot_summary : record.Slot "error_summary" Decoder.string Envelope.summary :=
  Record.slot_of_mem nodup_record List.mem_cons_self (fun _ _ => rfl)
    (by simp [record, Field.defaulted, Field.leaves_make])

lemma slot_tag :
    record.Slot "error" (Decoder.nullable (tagRecord "ErrorTag").decoder) Envelope.tag :=
  Record.slot_of_mem nodup_record (List.mem_cons_of_mem _ List.mem_cons_self) (fun _ _ => rfl)
    (by simp [record, Field.defaulted, Field.leaves_make])

/-- The members say one thing. -/
lemma Shows.unique {e' : Envelope} (hs : skimMembers ms = .ok ()) (h : Shows ms e)
    (h' : Shows ms e') : e = e' := by
  have hsummary : e.summary = e'.summary := by
    by_cases hm : "error_summary" ∈ ms.keys
    · obtain ⟨n, hn⟩ := Written.exists_has hm
      obtain ⟨s, rfl, hread⟩ := h.summary n hn
      obtain ⟨s', heq, hread'⟩ := h'.summary _ hn
      cases heq
      exact Except.ok.inj (hread.symm.trans hread')
    · rw [h.noSummary hm, h'.noSummary hm]
  have htag : e.tag = e'.tag := by
    by_cases hm : "error" ∈ ms.keys
    · obtain ⟨n, hn⟩ := Written.exists_has hm
      have hread := (tagDecoder_eq_ok_iff "" 0 (skim_of_has hs hn)).mpr (h.tag n hn)
      have hread' := (tagDecoder_eq_ok_iff "" 0 (skim_of_has hs hn)).mpr (h'.tag n hn)
      exact Except.ok.inj (hread.symm.trans hread')
    · rw [h.noTag hm, h'.noTag hm]
  cases e
  cases e'
  simp_all

lemma Shows.fits (honce : (record.taken ms).Nodup) (hs : skimMembers ms = .ok ())
    (h : Shows ms e) : record.Fits (depth + 1) ms where
  keys := h.keys
  once := honce
  read := by
    intro f hf n hn
    rcases List.mem_pair.mp hf with rfl | rfl
    · obtain ⟨s, rfl, hread⟩ := h.summary n hn
      exact ⟨_, Field.read_make_eq_ok.mpr ⟨_, Decoder.string_eq_ok_iff.mpr ⟨s, rfl, hread⟩, rfl⟩⟩
    · have hread := (tagDecoder_eq_ok_iff "ErrorTag" depth (skim_of_has hs hn)).mpr (h.tag n hn)
      exact ⟨_, Field.read_make_eq_ok.mpr ⟨_, hread, rfl⟩⟩

/-- What an envelope can be written as. Either it is an object in which neither of its two members
comes twice, or it is an array of the two, of which the last or both may be missing. -/
inductive Holds : Node → Envelope → Prop where
  | object {ms : Written} {e : Envelope} (once : ms.keys.count "error_summary" ≤ 1)
      (onceTag : ms.keys.count "error" ≤ 1) (shows : Shows ms e) : Holds (.object ms .closed) e
  | empty : Holds (.array [] .closed) ⟨"", none⟩
  | summary {s : StringLiteral} {t : String} (read : s.read = .ok t) :
      Holds (.array [.string s] .closed) ⟨t, none⟩
  | both {s : StringLiteral} {t : String} {n : Node} {x : Option String} (read : s.read = .ok t)
      (tag : HoldsTag n x) : Holds (.array [.string s, n] .closed) ⟨t, x⟩

/-- An object is read as an envelope as it stands. -/
lemma decoder_object_iff (hs : skimMembers ms = .ok ()) :
    record.decoder (depth + 2) (.object ms .closed) = .ok e ↔ Holds (.object ms .closed) e := by
  have honce : (record.taken ms).Nodup ↔
      ms.keys.count "error_summary" ≤ 1 ∧ ms.keys.count "error" ≤ 1 := by
    rw [Record.nodup_taken_iff]
    simp [record, Field.defaulted, Field.make]
  have hshows {e : Envelope} (h : record.decoder (depth + 2) (.object ms .closed) = .ok e) :
      (record.taken ms).Nodup ∧ Shows ms e := by
    obtain ⟨hfits, -⟩ := (Record.exists_decoder_iff nodup_record hs).mp ⟨e, h⟩
    obtain ⟨hsummary, hnoSummary⟩ := Record.slot_of_decoder nodup_record hs slot_summary h
    obtain ⟨htag, hnoTag⟩ := Record.slot_of_decoder nodup_record hs slot_tag h
    exact ⟨hfits.once, hfits.keys, fun n hn => Decoder.string_eq_ok_iff.mp (hsummary n hn),
      hnoSummary, fun n hn => (tagDecoder_eq_ok_iff _ _ (skim_of_has hs hn)).mp (htag n hn), hnoTag⟩
  constructor
  · intro h
    obtain ⟨htaken, hshow⟩ := hshows h
    obtain ⟨h1, h2⟩ := honce.mp htaken
    exact .object h1 h2 hshow
  · rintro (⟨h1, h2, h⟩ | _)
    have hfits : record.Fits (depth + 1) ms := h.fits (honce.mpr ⟨h1, h2⟩) hs
    obtain ⟨e', he'⟩ := (Record.exists_decoder_iff nodup_record hs).mpr
      ⟨hfits, by simp [record, Field.defaulted, Field.make]⟩
    rw [he', (hshows he').2.unique hs h]

/-- An array with one element is read as its summary. -/
lemma decoder_singleton : record.decoder (depth + 2) (.array [n] .closed) =
    (Decoder.string (depth + 1) n).map fun t => ⟨t, none⟩ := by
  simp only [Record.decoder, Decoder.nested, record, Field.defaulted, Field.make,
    Record.readElements, Decoder.map]
  rcases Decoder.string (depth + 1) n with f | t <;> rfl

/-- An array with two elements is read as a summary and a tag. -/
lemma decoder_pair {n' : Node} : record.decoder (depth + 2) (.array [n, n'] .closed) =
    Decoder.string (depth + 1) n >>= fun t =>
      ((tagRecord "ErrorTag").decoder.nullable (depth + 1) n').map fun x => ⟨t, x⟩ := by
  simp only [Record.decoder, Decoder.nested, record, Field.defaulted, Field.make,
    Record.readElements, Decoder.map]
  rcases Decoder.string (depth + 1) n with f | t
  · rfl
  · rcases (tagRecord "ErrorTag").decoder.nullable (depth + 1) n' with f | x <;> rfl

/-- An array with more elements is read as nothing. -/
lemma decoder_more_ne_ok {n' n'' : Node} {ns : List Node} :
    record.decoder (depth + 2) (.array (n :: n' :: n'' :: ns) .closed) ≠ .ok e := by
  simp only [Record.decoder, Decoder.nested, record, Field.defaulted, Field.make,
    Record.readElements, Decoder.map]
  rcases Decoder.string (depth + 1) n with f | t
  · simp [Except.map, bind, Except.bind]
  · rcases (tagRecord "ErrorTag").decoder.nullable (depth + 1) n' with f | x <;>
      simp [Except.map, bind, Except.bind, Decoder.endEarly, fail]

/-- An array is read as an envelope part by part. -/
lemma decoder_array_iff {ns : List Node} (hs : ∀ n ∈ ns, n.skim = .ok ()) :
    record.decoder (depth + 2) (.array ns .closed) = .ok e ↔ Holds (.array ns .closed) e := by
  rcases ns with _ | ⟨n, _ | ⟨n', _ | ⟨n'', ns⟩⟩⟩
  · have hread : record.decoder (depth + 2) (.array [] .closed) = .ok ⟨"", none⟩ := rfl
    rw [hread]
    constructor
    · rintro ⟨⟩
      exact .empty
    · rintro ⟨⟩
      rfl
  · rw [decoder_singleton, map_eq_ok_iff]
    constructor
    · rintro ⟨t, ht, rfl⟩
      obtain ⟨s, rfl, hst⟩ := Decoder.string_eq_ok_iff.mp ht
      exact .summary hst
    · rintro (_ | _ | hst)
      exact ⟨_, Decoder.string_eq_ok_iff.mpr ⟨_, rfl, hst⟩, rfl⟩
  · rw [decoder_pair, bind_eq_ok_iff]
    have htag {x : Option String} :=
      tagDecoder_eq_ok_iff (x := x) "ErrorTag" depth (hs n' (by simp))
    constructor
    · rintro ⟨t, ht, hrest⟩
      obtain ⟨x, hx, rfl⟩ := map_eq_ok_iff.mp hrest
      obtain ⟨s, rfl, hst⟩ := Decoder.string_eq_ok_iff.mp ht
      exact .both hst (htag.mp hx)
    · rintro (_ | _ | _ | ⟨hst, hx⟩)
      exact ⟨_, Decoder.string_eq_ok_iff.mpr ⟨_, rfl, hst⟩,
        map_eq_ok_iff.mpr ⟨_, htag.mpr hx, rfl⟩⟩
  · refine ⟨fun h => absurd h decoder_more_ne_ok, ?_⟩
    rintro ⟨⟩

/-- **What is read as an envelope**, wherever it stands. -/
theorem decoder_eq_ok_iff (hs : n.skim = .ok ()) :
    record.decoder (depth + 2) n = .ok e ↔ Holds n e := by
  rcases n with _ | b | l | s | ⟨ns, stop⟩ | ⟨ms, stop⟩ | ⟨ms, i⟩ | p | p
  case array =>
    obtain ⟨rfl, hns⟩ := skim_array_iff.mp hs
    exact decoder_array_iff hns
  case object =>
    obtain ⟨rfl, hms⟩ := skim_object_iff.mp hs
    exact decoder_object_iff hms
  case stray => exact absurd hs skim_stray_ne_ok
  -- nothing else is read, and nothing else holds an envelope
  all_goals
    constructor
    · simp [Record.decoder, Decoder.mismatch_ne_ok]
    · rintro ⟨⟩

lemma strict_record : record.decoder.Strict := by
  have htag : (tagRecord "ErrorTag").decoder.Strict := Record.strict_decoder fun f hf => by
    obtain rfl := List.mem_singleton.mp hf
    exact Decoder.strict_string.map _
  refine Record.strict_decoder fun f hf => ?_
  rcases List.mem_pair.mp hf with rfl | rfl
  · exact Decoder.strict_string.map _
  · exact htag.nullable.map _

/-- A body says what an envelope says: it is a well-formed text of an envelope and of nothing
more. -/
def IsBody (body : List UInt8) (e : Envelope) : Prop :=
  ∃ n, scan body = ⟨n, false⟩ ∧ n.skim = .ok () ∧ Holds n e

/-- **What a body is read as.** -/
theorem parse?_eq_some_iff : parse? body = some e ↔ IsBody body e := by
  have hparse : parse? body = some e ↔ record.decoder.decode body = .ok e := by
    rw [parse?]
    rcases record.decoder.decode body with f | e' <;> simp [Except.toOption]
  have hholds {n : Node} (hs : n.skim = .ok ()) :
      record.decoder depthLimit n = .ok e ↔ Holds n e := decoder_eq_ok_iff hs
  rw [hparse, Decoder.decode_eq_ok_iff]
  constructor
  · rintro ⟨n, hscan, hread⟩
    have hskim := strict_record hread
    exact ⟨n, hscan, hskim, (hholds hskim).mp hread⟩
  · rintro ⟨n, hscan, hskim, h⟩
    exact ⟨n, hscan, (hholds hskim).mpr h⟩

/-- A body that is an object without repetition says what the members of the object say. -/
lemma isBody_iff (h : IsObject body ms) : IsBody body e ↔ Shows ms e := by
  constructor
  · rintro ⟨n, hscan, -, hholds⟩
    obtain rfl := congrArg Document.root (h.scan.symm.trans hscan)
    cases hholds with
    | object _ _ shows => exact shows
  · intro hshows
    have honce := List.nodup_iff_count_le_one.mp h.distinct
    exact ⟨_, h.scan, skim_object_iff.mpr ⟨rfl, h.skim⟩, .object (honce _) (honce _) hshows⟩

end Envelope

/-! ### The error of an answer -/

namespace ApiError

/-- An error tells each part of a body for itself: a summary that is a text, whatever stands for the
tag, and a tag that is a text, whatever stands for the summary. -/
structure TellsEachPart (e : ApiError) (ms : Written) : Prop where
  summary : ∀ t, t ≠ "" → ms.Says "error_summary" t → e.summary = some t
  tag : ∀ (es : Written) t, t ≠ "" → ms.Has "error" (.object es .closed) → es.Says ".tag" t →
    e.tag = some t

/-- The members of a body hold neither a summary nor a tag. -/
structure NothingToTell (ms : Written) : Prop where
  summary : ∀ t, t ≠ "" → ¬ms.Says "error_summary" t
  tag : ∀ (es : Written) t, t ≠ "" → ms.Has "error" (.object es .closed) → ¬es.Says ".tag" t

variable {status : ℕ} {limit : RateLimit} {ms : Written} {v : Envelope}

/-- What is well shaped is told. -/
lemma tellsEachPart_of_shows (h : Envelope.Shows ms v) :
    (ofEnvelope status (some v) limit).TellsEachPart ms where
  summary := by
    rintro m hm ⟨s, hs, hread⟩
    obtain ⟨s', heq, hread'⟩ := h.summary _ hs
    cases heq
    exact summary_ofEnvelope.mpr ⟨hm, Except.ok.inj (hread'.symm.trans hread)⟩
  tag := by
    rintro es t ht hes ⟨s, hs, hread⟩
    refine tag_ofEnvelope.mpr ⟨ht, ?_⟩
    have htag := h.tag _ hes
    generalize v.tag = x at htag
    cases htag with
    | tagged _ once tag =>
      obtain ⟨s', hs', hread'⟩ := tag
      cases hs.unique hs' once
      rw [← Except.ok.inj (hread.symm.trans hread')]
    | untagged _ absent => exact absurd hs.mem_keys absent

lemma tellsEachPart_ofEnvelope_none :
    (ofEnvelope status none limit).TellsEachPart ms ↔ NothingToTell ms := by
  constructor
  · rintro ⟨hsummary, htag⟩
    refine ⟨fun t ht h => ?_, fun es t ht hes h => ?_⟩
    · cases hsummary t ht h
    · cases htag es t ht hes h
  · rintro ⟨hsummary, htag⟩
    exact ⟨fun t ht h => absurd h (hsummary t ht), fun es t ht hes h => absurd h (htag es t ht hes)⟩

end ApiError

namespace Client

variable {c : Client} {s : Session} {t : String} {status : ℕ} {headers : List (String × String)}
  {body : List UInt8} {arrival : Arrival}

/-- A declined call comes to the error of its answer. -/
lemma execute_of_declined (op : Operation) (b : Value) (ht : (c.token s).1 = .ok t)
    (hl : Http.isHeaderValue (bearer t))
    (hn : s.transport.next? = some (.response status headers body arrival))
    (hs : ¬(200 ≤ status ∧ status ≤ 299)) :
    (c.execute op (some b) s).1 = .error (.api (.ofEnvelope status (Envelope.parse? body)
      (.ofResponse status (.ofList headers) (arrival.instant c.now)))) := by
  have hno : Http.isSuccess status = false := by
    rw [← Bool.not_eq_true]
    simpa [Http.isSuccess] using hs
  have hrejects : c.Rejects op (some (.response status headers body arrival)) _ := .status hno
  rw [execute_apply c op b (Prod.ext ht rfl) hl, token_transport, hn, receive_of_rejects hrejects]

/-- **What an answer tells of its error.** A declined call whose answer has an object in its body
comes to an error of the service with the status of the answer. If the members of the object are
well shaped as an envelope, the summary and the tag are those of the envelope, unless they are
empty; if one is not, there is neither, and the error is described in general words. So each part
is told for itself just if all of it is well shaped, or if there is nothing to tell. -/
theorem error_of_declined (op : Operation) (b : Value) (ht : (c.token s).1 = .ok t)
    (hl : Http.isHeaderValue (bearer t))
    (hn : s.transport.next? = some (.response status headers body arrival))
    (hs : ¬(200 ≤ status ∧ status ≤ 299)) {ms : Written} (hbody : IsObject body ms) :
    ∃ e, (c.execute op (some b) s).1 = .error (.api e) ∧ e.status = status ∧
      e.text = (e.summary <|> e.tag).getD "unknown dropbox error" ∧
      (∀ v, Envelope.Shows ms v → (∀ m, e.summary = some m ↔ m ≠ "" ∧ v.summary = m) ∧
        ∀ t, e.tag = some t ↔ t ≠ "" ∧ v.tag = some t) ∧
      ((¬∃ v, Envelope.Shows ms v) → e.summary = none ∧ e.tag = none) ∧
      (e.TellsEachPart ms ↔ (∃ v, Envelope.Shows ms v) ∨ ApiError.NothingToTell ms) := by
  refine ⟨_, execute_of_declined op b ht hl hn hs, rfl, rfl, ?_⟩
  by_cases hv : ∃ v, Envelope.Shows ms v
  · obtain ⟨v, hv⟩ := hv
    rw [Envelope.parse?_eq_some_iff.mpr ((Envelope.isBody_iff hbody).mpr hv)]
    refine ⟨fun v' hv' => ?_, fun hno => absurd ⟨v, hv⟩ hno, ?_⟩
    · rw [hv'.unique hbody.skim hv]
      exact ⟨fun _ => ApiError.summary_ofEnvelope, fun _ => ApiError.tag_ofEnvelope⟩
    · exact iff_of_true (ApiError.tellsEachPart_of_shows hv) (.inl ⟨v, hv⟩)
  · have hnone : Envelope.parse? body = none := Option.eq_none_iff_forall_ne_some.mpr
      fun v h => hv ⟨v, (Envelope.isBody_iff hbody).mp (Envelope.parse?_eq_some_iff.mp h)⟩
    rw [hnone]
    refine ⟨fun v hv' => absurd ⟨v, hv'⟩ hv, fun _ => ⟨rfl, rfl⟩, ?_⟩
    rw [ApiError.tellsEachPart_ofEnvelope_none, or_iff_right hv]

end Client

/-! ### A sample -/

namespace Sample

/-- A session in which a call is declined for a conflict, with some members in the body. -/
def conflict (ms : List (String × Value)) : Session :=
  .start ⟨[.response 409 [] (Utf8.ofString (Value.object ms).toText)], none, []⟩

lemma next?_conflict (ms : List (String × Value)) : (conflict ms).transport.next? =
    some (.response 409 [] (Utf8.ofString (Value.object ms).toText)) := rfl

/-- Both parts, well shaped. -/
def bothParts : List (String × Value) :=
  [("error_summary", .string "duplicate_user/.."), ("error", tagged "duplicate_user")]

/-- A tag beside a summary that is `null`. -/
def tagAlone : List (String × Value) :=
  [("error_summary", .null), ("error", tagged "duplicate_user")]

/-- A summary beside a text where the tag should be. -/
def summaryAlone : List (String × Value) :=
  [("error_summary", .string "duplicate_user/.."), ("error", .string "duplicate_user")]

end Sample

open Sample in
theorem Client.error_of_declined_conflict :
    (client.token (conflict bothParts)).1 = .ok "sl.token" ∧
      IsObject (Utf8.ofString (Value.object bothParts).toText) (memberNodes bothParts) ∧
      ∃ e, (client.execute .addGroupMembers (some .null) (conflict bothParts)).1 =
        .error (.api e) ∧ e.summary = some "duplicate_user/.." ∧ e.tag = some "duplicate_user" ∧
        e.TellsEachPart (memberNodes bothParts) := by
  have ht : (client.token (conflict bothParts)).1 = .ok "sl.token" := rfl
  have hbody : IsObject (Utf8.ofString (Value.object bothParts).toText) (memberNodes bothParts) :=
    isObject_toText rfl (by decide)
  have hparse : Envelope.parse? (Utf8.ofString (Value.object bothParts).toText) =
      some ⟨"duplicate_user/..", some "duplicate_user"⟩ := by decide +kernel
  have hv := (Envelope.isBody_iff hbody).mp (Envelope.parse?_eq_some_iff.mp hparse)
  obtain ⟨e, he, -, -, hshows, -, htells⟩ := error_of_declined .addGroupMembers .null ht
    isHeaderValue_bearer (next?_conflict bothParts) (by omega) hbody
  obtain ⟨hsummary, htag⟩ := hshows _ hv
  exact ⟨ht, hbody, e, he, (hsummary _).mpr ⟨by decide, rfl⟩, (htag _).mpr ⟨by decide, rfl⟩,
    htells.mpr (.inl ⟨_, hv⟩)⟩

open Sample in
/-- A tag is lost beside a summary that is `null`, and a summary beside a text for a tag. -/
theorem Client.parts_of_envelope_lost :
    (IsObject (Utf8.ofString (Value.object tagAlone).toText) (memberNodes tagAlone) ∧
      ∃ e, (client.execute .addGroupMembers (some .null) (conflict tagAlone)).1 =
        .error (.api e) ∧ ¬e.TellsEachPart (memberNodes tagAlone)) ∧
    IsObject (Utf8.ofString (Value.object summaryAlone).toText) (memberNodes summaryAlone) ∧
      ∃ e, (client.execute .addGroupMembers (some .null) (conflict summaryAlone)).1 =
        .error (.api e) ∧ ¬e.TellsEachPart (memberNodes summaryAlone) := by
  have hlost {ms : List (String × Value)}
      (hparse : Envelope.parse? (Utf8.ofString (Value.object ms).toText) = none)
      (htell : ¬ApiError.NothingToTell (memberNodes ms)) :
      ∃ e, (client.execute .addGroupMembers (some .null) (conflict ms)).1 = .error (.api e) ∧
        ¬e.TellsEachPart (memberNodes ms) := by
    have he := execute_of_declined .addGroupMembers .null (c := client) rfl isHeaderValue_bearer
      (next?_conflict ms) (by omega)
    refine ⟨_, he, fun h => htell ?_⟩
    rw [hparse] at h
    exact ApiError.tellsEachPart_ofEnvelope_none.mp h
  refine ⟨⟨isObject_toText rfl (by decide), hlost (by decide +kernel) fun h => ?tag⟩,
    isObject_toText rfl (by decide), hlost (by decide +kernel) fun h => ?summary⟩
  case tag =>
    refine h.tag (memberNodes [(".tag", .string "duplicate_user")]) "duplicate_user" (by decide)
      (has_memberNodes.mpr ⟨tagged "duplicate_user", by simp [tagAlone], rfl⟩) ?_
    exact ⟨_, has_memberNodes.mpr ⟨.string "duplicate_user", by simp, rfl⟩,
      StringLiteral.read_ofString _⟩
  case summary =>
    exact h.summary "duplicate_user/.." (by decide)
      ⟨_, has_memberNodes.mpr ⟨.string "duplicate_user/..", by simp [summaryAlone], rfl⟩,
        StringLiteral.read_ofString _⟩

end TeamSync
