import TeamSync.Directory
import TeamSync.Graph.Annotation

/-!
Actions a host can run by name: disabling and enabling a user.
-/

namespace TeamSync

open Json

/-- What a host can have done to an account beside making and ending it. -/
inductive Action where
  | disableUser
  | enableUser
  deriving DecidableEq, Repr

namespace Action

def all : List Action := [.disableUser, .enableUser]

def name : Action → String
  | .disableUser => "disable_user"
  | .enableUser => "enable_user"

def ofName? (name : String) : Option Action := all.find? (·.name == name)

/-! ### Schemas -/

/-- An argument or a result of an action. -/
def fieldJson (name displayName description fieldType : String) (required : Bool) : Value :=
  .object [("name", .string name), ("display_name", .string displayName),
    ("description", .string description), ("field_type", .string fieldType),
    ("required", .bool required)]

def displayName : Action → String
  | .disableUser => "Disable User"
  | .enableUser => "Enable User"

def description : Action → String
  | .disableUser => "Disables a user's access to Dropbox Team (suspends the account)"
  | .enableUser => "Enables a user's access to Dropbox Team (unsuspends the account)"

def verb : Action → String
  | .disableUser => "disable"
  | .enableUser => "enable"

/-- The description of an action for a host. -/
def schema (a : Action) : Value :=
  .object [("name", .string a.name), ("display_name", .string a.displayName),
    ("description", .string a.description),
    ("arguments", .array [fieldJson "user_id" "User Team Member ID"
      ("The team member ID of the user to " ++ a.verb) "string" true]),
    ("return_types", .array [fieldJson "success" "Success"
      ("Whether the user was " ++ a.verb ++ "d successfully") "bool" false]),
    ("action_type", .string ("account_" ++ a.verb))]

/-! ### Running -/

/-- The member an action is about, or what is wrong with the argument that should say so. -/
def memberOf (args : Members) : Except String String :=
  match args.get? "user_id" with
  | none | some .null => .error "missing user_id"
  | some (.string id) => if id = "" then .error "user_id cannot be empty" else .ok id
  | some _ => .error "invalid user_id format"

/-- The member an action is about; a wrong argument is logged. -/
def extractMember (a : Action) (args : Members) : Step String :=
  match memberOf args with
  | .ok id => pure id
  | .error problem => do
    Step.log .warn problem [("action", .text a.name)]
    Step.fail (.argument (.invalid problem))

/-- What every action that works out yields. -/
def success : Value := .object [("success", .bool true)]

/-- Brings the member into the state the action stands for. -/
def apply (d : Directory) : Action → String → Step MutationOutcome
  | .disableUser => d.suspend
  | .enableUser => d.unsuspend

def run (d : Directory) (a : Action) (args : Members) : Step (Value × Annotations) := do
  let member ← a.extractMember args
  let outcome ← (a.apply d member).rescue fun e => do
    Step.log .warn "Action failed" [("team_member_id", .text member), ("error", .text e.message)]
    Step.fail e
  Step.log .info (if outcome.isNoop then "User already in requested state" else "Action applied")
    [("team_member_id", .text member)]
  pure (success, [.rateLimit outcome.rateLimit])

end Action

end TeamSync
