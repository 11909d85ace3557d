import TeamSync.Session
import TeamSync.Text.Quoted

/-!
Mutations that may be repeated: an error that says the wanted state is already in effect counts as
success. Which tags say so is configured for each kind of mutation.
-/

namespace TeamSync

/-- The changes that are safe to repeat. -/
inductive MutationKind where
  | addToGroup
  | removeFromGroup
  | addRole
  | clearRoles
  | suspend
  | unsuspend
  deriving DecidableEq, Repr

def MutationKind.name : MutationKind → String
  | .addToGroup => "AddToGroup"
  | .removeFromGroup => "RemoveFromGroup"
  | .addRole => "AddRole"
  | .clearRoles => "ClearRoles"
  | .suspend => "Suspend"
  | .unsuspend => "Unsuspend"

/-- The tags a mutation accepts unless told otherwise. -/
def MutationKind.defaultTags : MutationKind → List String
  | .addToGroup => ["duplicate_user"]
  | .removeFromGroup => ["members_not_in_group", "users_not_found"]
  | .addRole => ["duplicate_user", "user_already_has_role"]
  | .clearRoles => ["user_not_found", "user_not_in_team"]
  | .suspend => ["suspend_inactive_user"]
  | .unsuspend => ["unsuspend_non_suspended_member"]

/-- For each kind of mutation the tags that say its end state is already in effect. -/
structure AllowList where
  tags : MutationKind → List String

namespace AllowList

def standard : AllowList := ⟨MutationKind.defaultTags⟩

def empty : AllowList := ⟨fun _ => []⟩

/-- Replaces the tags of one kind. -/
def set (a : AllowList) (kind : MutationKind) (tags : List String) : AllowList :=
  ⟨fun k => if k = kind then tags else a.tags k⟩

def contains (a : AllowList) (kind : MutationKind) (tag : String) : Bool := (a.tags kind).elem tag

/-- Whether an error says that the end state of a mutation is already in effect. -/
def absorbs (a : AllowList) (kind : MutationKind) (e : Error) : Bool :=
  match e.api? with
  | some api => api.isConflictOrNotFound && (api.tag.map (a.contains kind)).getD false
  | none => false

end AllowList

/-- Whether a mutation changed something. -/
inductive MutationState where
  | applied
  | alreadyInEffect
  deriving DecidableEq, Repr

/-- How a mutation that succeeds went. It has a tag only if it was refused as done already. -/
structure MutationOutcome where
  state : MutationState
  rateLimit : RateLimit
  serviceTag : Option String
  deriving DecidableEq, Repr

namespace MutationOutcome

def applied (r : RateLimit) : MutationOutcome := ⟨.applied, r, none⟩

def isNoop (o : MutationOutcome) : Bool := o.state = .alreadyInEffect

/-- What is left of an error that is absorbed. -/
def absorbed (e : Error) : MutationOutcome :=
  ⟨.alreadyInEffect, e.rateLimit?.getD .unreported, e.serviceTag?⟩

end MutationOutcome

/-- A tag that may be missing, in words. -/
def describeTag : Option String → String
  | some tag => "Some(" ++ Text.quote tag ++ ")"
  | none => "None"

/-- The outcome of a mutation from the result of its call. -/
def settle (kind : MutationKind) (allowed : AllowList) (result : Except Error RateLimit) :
    Step MutationOutcome :=
  match result with
  | .ok r => pure (.applied r)
  | .error e =>
    if allowed.absorbs kind e then do
      Step.log .debug "End state already in effect"
        [("kind", .text kind.name), ("tag", .text (describeTag e.serviceTag?))]
      pure (.absorbed e)
    else Step.fail e

end TeamSync
