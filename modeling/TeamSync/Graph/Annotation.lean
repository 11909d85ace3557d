import TeamSync.Mutation
import TeamSync.Page

/-!
What is said beside a result: the rate limit, and whether there was nothing left to do.
-/

namespace TeamSync

/-- What is said beside an answer. -/
inductive Annotation where
  | rateLimit (r : RateLimit)
  | grantAlreadyExists
  | grantAlreadyRevoked
  deriving DecidableEq, Repr

abbrev Annotations := List Annotation

namespace Annotations

/-- The first rate limit among annotations. -/
def rateLimit? (as : Annotations) : Option RateLimit :=
  as.findSome? fun
    | .rateLimit r => some r
    | _ => none

end Annotations

/-- The annotations of a mutation: its rate limit, and `noop` if it was in effect before. -/
def MutationOutcome.annotations (o : MutationOutcome) (noop : Annotation) : Annotations :=
  .rateLimit o.rateLimit :: if o.isNoop then [noop] else []

/-- A page of the graph; the empty token says that it is the last. -/
structure SyncPage (α : Type) where
  items : List α
  next : PageToken
  annotations : Annotations

namespace SyncPage

variable {α β : Type}

/-- A page after which there is no other. -/
def last (items : List α) (annotations : Annotations) : SyncPage α := ⟨items, .start, annotations⟩

/-- A page of a listing, its entries turned into something else. -/
def ofPage (p : Page α) (f : List α → List β) : SyncPage β :=
  ⟨f p.items, p.nextToken, [.rateLimit p.rateLimit]⟩

end SyncPage

end TeamSync
