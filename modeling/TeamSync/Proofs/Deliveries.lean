import Mathlib.Data.List.Forall2
import TeamSync.Proofs.HeaderFields
import TeamSync.Transport

/-!
What is done with a transport and what its requests get. What was done, without a look at the
queue, decides where each request finds its answer, and at every moment the answers and the requests
of a transport add up.
-/

namespace TeamSync

/-! ### Deliveries -/

/-- Where a request finds its answer. -/
inductive Supply where
  | queued (a : Answer)
  | standing (a : Answer)
  | missing
  deriving DecidableEq

namespace Supply

def queued? : Supply → Option Answer
  | queued a => some a
  | _ => none

def standing? : Supply → Option Answer
  | standing a => some a
  | _ => none

/-- An answer is found in one place, or in none. -/
lemma one_place (s : Supply) :
    s.queued?.toList.length + s.standing?.toList.length + (if s = missing then 1 else 0) = 1 := by
  cases s <;> rfl

/-- How a request has to find its answer, where some answers were added, some of them were used
before, and one may stand: it uses up the oldest that is left, takes the one that stands just if
none is left, and finds nothing just if there is neither. -/
structure Fits (s : Supply) (added used : List Answer) (current : Option Answer) : Prop where
  queued (a : Answer) : s = queued a ↔ ∃ rest, added = used ++ a :: rest
  standing (a : Answer) : s = standing a ↔ added = used ∧ current = some a
  missing : s = missing ↔ added = used ∧ current = none

/-- There is one place only where a request has to find its answer. -/
lemma Fits.unique {s s' : Supply} {added used : List Answer} {current : Option Answer}
    (h : s.Fits added used current) (h' : s'.Fits added used current) : s = s' := by
  cases s' with
  | queued a => exact (h.queued a).mpr ((h'.queued a).mp rfl)
  | standing a => exact (h.standing a).mpr ((h'.standing a).mp rfl)
  | missing => exact h.missing.mpr (h'.missing.mp rfl)

end Supply

/-- What comes back with an answer: its failure, or its status and its body with headers in which
a name in any case has the value of the last field for it. The fields that HTTP does not allow are
missing from them, and no others. -/
inductive Answer.Comes : Answer → Except Error Http.Response → Prop where
  | response {status : ℕ} {fields : List (String × String)} {body : List UInt8} {hs : Http.Headers}
      {arrival : Arrival} (values : ∀ name, hs.value? name = Http.Headers.lastValue? fields name)
      (kept : hs = .ofList (fields.filter Http.isField)) :
      Comes (.response status fields body arrival) (.ok ⟨status, hs, body, arrival⟩)
  | failure (cause : NetworkError) : Comes (.failure cause) (.error (.network cause))

/-- A request and where it finds its answer. -/
structure Delivery where
  request : Http.Request
  supply : Supply

namespace Delivery

/-- What comes back for a request. -/
inductive Returns : Delivery → Except Error Http.Response → Prop where
  | queued {r : Http.Request} {a : Answer} {x : Except Error Http.Response} (h : a.Comes x) :
      Returns ⟨r, .queued a⟩ x
  | standing {r : Http.Request} {a : Answer} {x : Except Error Http.Response} (h : a.Comes x) :
      Returns ⟨r, .standing a⟩ x
  | missing (r : Http.Request) : Returns ⟨r, .missing⟩
      (.error (.network (.connectionFailed ("no mock response queued for " ++ r.url))))

/-- The answers that some requests used up, in order. -/
def usedBy (ds : List Delivery) : List Answer := ds.filterMap (·.supply.queued?)

/-- The answers that were given because they stood, in order. -/
def stoodFor (ds : List Delivery) : List Answer := ds.filterMap (·.supply.standing?)

/-- How many requests found no answer. -/
def unmet (ds : List Delivery) : ℕ := ds.countP (·.supply = .missing)

lemma usedBy_cons (d : Delivery) (ds : List Delivery) :
    usedBy (d :: ds) = d.supply.queued?.toList ++ usedBy ds := by
  cases h : d.supply.queued? <;> simp [usedBy, h]

lemma stoodFor_cons (d : Delivery) (ds : List Delivery) :
    stoodFor (d :: ds) = d.supply.standing?.toList ++ stoodFor ds := by
  cases h : d.supply.standing? <;> simp [stoodFor, h]

lemma unmet_cons (d : Delivery) (ds : List Delivery) :
    unmet (d :: ds) = unmet ds + if d.supply = .missing then 1 else 0 := by
  simp [unmet, List.countP_cons]

/-- The requests are as many as found an answer in the queue, as took one that stood and as found
none. -/
lemma length_eq (ds : List Delivery) :
    ds.length = (usedBy ds).length + (stoodFor ds).length + unmet ds := by
  induction ds with
  | nil => rfl
  | cons d ds ih =>
    have hplace := d.supply.one_place
    rw [usedBy_cons, stoodFor_cons, unmet_cons, List.length_append, List.length_append,
      List.length_cons]
    omega

end Delivery

open Delivery

lemma Answer.comes_result (a : Answer) : a.Comes a.result := by
  cases a with
  | response status fields body arrival =>
    exact .response (Http.Headers.value?_ofList fields) (Http.Headers.ofList_filter fields).symm
  | failure cause => exact .failure cause

namespace Transport

/-! ### Uses -/

/-- What can be done with a transport. -/
inductive Use where
  | enqueue (as : List Answer)
  | setStanding (a : Answer)
  | send (r : Http.Request)

namespace Use

def added : Use → List Answer
  | enqueue as => as
  | _ => []

def standing? : Use → Option Answer
  | setStanding a => some a
  | _ => none

def request? : Use → Option Http.Request
  | send r => some r
  | _ => none

end Use

/-- The answers that some uses added, in order. -/
def addedBy (us : List Use) : List Answer := us.flatMap Use.added

/-- The answer that stands after some uses: the last that was set. -/
def lastStanding (us : List Use) : Option Answer := (us.filterMap Use.standing?).getLast?

/-- The requests among some uses, in order. -/
def requestsOf (us : List Use) : List Http.Request := us.filterMap Use.request?

lemma addedBy_concat (us : List Use) (u : Use) : addedBy (us ++ [u]) = addedBy us ++ u.added := by
  simp [addedBy]

lemma lastStanding_concat (us : List Use) (u : Use) :
    lastStanding (us ++ [u]) = (u.standing? <|> lastStanding us) := by
  cases h : u.standing? <;> simp [lastStanding, h]

lemma requestsOf_concat (us : List Use) (u : Use) :
    requestsOf (us ++ [u]) = requestsOf us ++ u.request?.toList := by
  cases h : u.request? <;> simp [requestsOf, h]

/-- What comes back from a use, if it is a request, and the transport after it. -/
def use (t : Transport) : Use → List (Except Error Http.Response) × Transport
  | .enqueue as => ([], t.enqueue as)
  | .setStanding a => ([], t.setStanding a)
  | .send r => ([(t.send r).1], (t.send r).2)

/-- What comes back for the requests among some uses, in order, and the transport after them. -/
def play (t : Transport) : List Use → List (Except Error Http.Response) × Transport
  | [] => ([], t)
  | u :: us => ((t.use u).1 ++ ((t.use u).2.play us).1, ((t.use u).2.play us).2)

lemma play_concat (t : Transport) (us : List Use) (u : Use) :
    t.play (us ++ [u]) =
      ((t.play us).1 ++ ((t.play us).2.use u).1, ((t.play us).2.use u).2) := by
  induction us generalizing t with
  | nil => simp [play]
  | cons v us ih => simp [play, ih]

/-! ### One request -/

/-- Where the next request finds its answer. -/
def supply (t : Transport) : Supply :=
  match t.queue, t.standing with
  | a :: _, _ => .queued a
  | [], some a => .standing a
  | [], none => .missing

lemma returns_send (t : Transport) (r : Http.Request) : Returns ⟨r, t.supply⟩ (t.send r).1 := by
  obtain ⟨_ | ⟨a, as⟩, _ | b, sent⟩ := t
  · exact .missing r
  · exact .standing b.comes_result
  · exact .queued a.comes_result
  · exact .queued a.comes_result

/-- A request finds its answer as it has to while the queue holds what was added and not used. -/
lemma fits_supply {t : Transport} {added used : List Answer} (h : added = used ++ t.queue) :
    t.supply.Fits added used t.standing := by
  obtain ⟨_ | ⟨a, as⟩, _ | b, sent⟩ := t
  all_goals
    subst h
    refine ⟨fun c => ?_, fun c => ?_, ?_⟩ <;> simp [supply]

/-- What a request uses up is missing from the queue afterwards. -/
lemma usedBy_concat (t : Transport) (r : Http.Request) (ds : List Delivery) :
    usedBy (ds ++ [⟨r, t.supply⟩]) ++ t.queue.tail = usedBy ds ++ t.queue := by
  obtain ⟨_ | ⟨a, as⟩, _ | b, sent⟩ := t <;> simp [usedBy, supply, Supply.queued?]

/-! ### All requests -/

/-- Some uses lead to some deliveries: one for each request, in order, and each request finds its
answer as it has to after all that was done before it. -/
inductive Delivers : List Use → List Delivery → Prop where
  | nil : Delivers [] []
  | other {us : List Use} {ds : List Delivery} {u : Use} (h : Delivers us ds)
      (hu : u.request? = none) : Delivers (us ++ [u]) ds
  | send {us : List Use} {ds : List Delivery} {s : Supply} (h : Delivers us ds) (r : Http.Request)
      (hs : s.Fits (addedBy us) (usedBy ds) (lastStanding us)) :
      Delivers (us ++ [.send r]) (ds ++ [⟨r, s⟩])

namespace Delivers

variable {us : List Use} {ds ds' : List Delivery} {u : Use}

lemma requests (h : Delivers us ds) : ds.map (·.request) = requestsOf us := by
  induction h with
  | nil => rfl
  | other _ hu ih => rw [ih, requestsOf_concat, hu, Option.toList_none, List.append_nil]
  | send _ r _ ih => rw [List.map_append, ih, requestsOf_concat]; rfl

lemma concat_cases (h : Delivers (us ++ [u]) ds) :
    (u.request? = none ∧ Delivers us ds) ∨ ∃ r s past, u = .send r ∧ ds = past ++ [⟨r, s⟩] ∧
      Delivers us past ∧ s.Fits (addedBy us) (usedBy past) (lastStanding us) := by
  generalize hl : us ++ [u] = l at h
  cases h with
  | nil => simp at hl
  | other h hu =>
    obtain ⟨rfl, hlast⟩ := List.append_inj' hl rfl
    cases hlast
    exact .inl ⟨hu, h⟩
  | send h r hs =>
    obtain ⟨rfl, hlast⟩ := List.append_inj' hl rfl
    cases hlast
    exact .inr ⟨r, _, _, rfl, rfl, h, hs⟩

/-- What was done decides where each request finds its answer. -/
lemma unique (h : Delivers us ds) (h' : Delivers us ds') : ds' = ds := by
  induction h generalizing ds' with
  | nil =>
    generalize hl : ([] : List Use) = l at h'
    cases h' with
    | nil => rfl
    | other => simp at hl
    | send => simp at hl
  | other _ hu ih =>
    rcases h'.concat_cases with ⟨-, hpast⟩ | ⟨r, s, past, rfl, -⟩
    · exact ih hpast
    · cases hu
  | send _ r hs ih =>
    rcases h'.concat_cases with ⟨hu, -⟩ | ⟨q, s, past, hq, rfl, hpast, hs'⟩
    · cases hu
    · cases hq
      obtain rfl := ih hpast
      rw [hs'.unique hs]

end Delivers

/-- What some uses of a transport that was empty have come to. -/
structure Accounts (us : List Use) (ds : List Delivery) (xs : List (Except Error Http.Response))
    (t : Transport) : Prop where
  delivers : Delivers us ds
  returns : List.Forall₂ Returns ds xs
  sent : t.sent = requestsOf us
  standing : t.standing = lastStanding us
  queue : addedBy us = usedBy ds ++ t.queue

namespace Accounts

variable {us : List Use} {ds : List Delivery} {xs : List (Except Error Http.Response)}
  {t : Transport}

lemma nil : Accounts [] [] [] empty := ⟨.nil, .nil, rfl, rfl, rfl⟩

lemma enqueue (h : Accounts us ds xs t) (as : List Answer) :
    Accounts (us ++ [.enqueue as]) ds xs (t.enqueue as) where
  delivers := h.delivers.other rfl
  returns := h.returns
  sent := by rw [requestsOf_concat, ← h.sent]; exact (List.append_nil _).symm
  standing := by rw [lastStanding_concat, ← h.standing]; rfl
  queue := by rw [addedBy_concat, h.queue, List.append_assoc]; rfl

lemma setStanding (h : Accounts us ds xs t) (a : Answer) :
    Accounts (us ++ [.setStanding a]) ds xs (t.setStanding a) where
  delivers := h.delivers.other rfl
  returns := h.returns
  sent := by rw [requestsOf_concat, ← h.sent]; exact (List.append_nil _).symm
  standing := by rw [lastStanding_concat]; rfl
  queue := by rw [addedBy_concat, h.queue]; exact List.append_nil _

lemma send (h : Accounts us ds xs t) (r : Http.Request) :
    Accounts (us ++ [.send r]) (ds ++ [⟨r, t.supply⟩]) (xs ++ [(t.send r).1]) (t.send r).2 where
  delivers := h.delivers.send r (h.standing ▸ fits_supply h.queue)
  returns := List.rel_append h.returns (.cons (t.returns_send r) .nil)
  sent := by rw [requestsOf_concat, ← h.sent]; rfl
  standing := by rw [lastStanding_concat, ← h.standing]; rfl
  queue := by
    rw [addedBy_concat, h.queue, ← t.usedBy_concat r ds]
    exact List.append_nil _

end Accounts

/-- Whatever is done with a transport, there is an account of it. -/
lemma exists_accounts (us : List Use) :
    ∃ ds, Accounts us ds (empty.play us).1 (empty.play us).2 := by
  induction us using List.reverseRecOn with
  | nil => exact ⟨[], .nil⟩
  | append_singleton us u ih =>
    obtain ⟨ds, h⟩ := ih
    rw [play_concat]
    cases u with
    | enqueue as => exact ⟨ds, by simpa [use] using h.enqueue as⟩
    | setStanding a => exact ⟨ds, by simpa [use] using h.setStanding a⟩
    | send r => exact ⟨_, h.send r⟩

/-- **A transport is a faithful queue.** What was done with it decides where each request finds its
answer: it uses up the oldest answer that was added and not used before, takes the answer that was
set to stand last just if no other is left, and finds none just if there is neither; and what it
finds is what comes back. Every request is recorded, once and in order, also one that gets a failure
or no answer. The answers that were added are those that were used up and, behind them, those that
are left; an answer that stands is never used up. So at every moment as many answers were added as
were used up and are left, and as many requests were made as used one up, took one that stood or
found none. -/
theorem deliveries_of_uses (us : List Use) :
    ∃ ds, (∀ ds', Delivers us ds' ↔ ds' = ds) ∧
      List.Forall₂ Returns ds (empty.play us).1 ∧
      (empty.play us).2.sent = requestsOf us ∧
      (empty.play us).2.standing = lastStanding us ∧
      addedBy us = usedBy ds ++ (empty.play us).2.queue ∧
      (addedBy us).length = (usedBy ds).length + (empty.play us).2.queue.length ∧
      (empty.play us).2.sent.length =
        (usedBy ds).length + (stoodFor ds).length + unmet ds := by
  obtain ⟨ds, h⟩ := exists_accounts us
  refine ⟨ds, fun ds' => ⟨h.delivers.unique, fun heq => heq ▸ h.delivers⟩, h.returns, h.sent,
    h.standing, h.queue, ?answers, ?requests⟩
  case answers => rw [h.queue, List.length_append]
  case requests =>
    calc (empty.play us).2.sent.length
        = (ds.map (·.request)).length := by rw [h.sent, h.delivers.requests]
      _ = ds.length := List.length_map _
      _ = (usedBy ds).length + (stoodFor ds).length + unmet ds := length_eq ds

example (r : Http.Request) :
    (empty.play [.setStanding (.response 503 [] []), .send r, .enqueue [.failure .timeout],
      .send r, .send r]).1 =
      [.ok ⟨503, [], [], none⟩, .error (.network .timeout), .ok ⟨503, [], [], none⟩] := rfl

end Transport

end TeamSync
