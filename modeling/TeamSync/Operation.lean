import TeamSync.Text.Blank

/-!
The operations of the team service, their names and where they are found below a base URL.
-/

namespace TeamSync

/-- What can be listed page by page. -/
inductive Listing where
  | members
  | groups
  | groupMembers
  deriving DecidableEq, Repr

def Listing.name : Listing → String
  | .members => "members"
  | .groups => "groups"
  | .groupMembers => "group_members"

/-- The first call of a listing, or one that carries on with a cursor. -/
inductive Phase where
  | start
  | continuing
  deriving DecidableEq, Repr

/-- What an error says in front of its message: where it came through. -/
structure Label where
  name : String
  deriving DecidableEq, Repr

/-- The calls that the service knows. -/
inductive Operation where
  | listMembers
  | listMembersContinue
  | addMember
  | removeMember
  | suspendMember
  | unsuspendMember
  | setAdminPermissions
  | listGroups
  | listGroupsContinue
  | listGroupMembers
  | listGroupMembersContinue
  | addGroupMembers
  | removeGroupMembers
  deriving DecidableEq, Repr

namespace Operation

def all : List Operation :=
  [.listMembers, .listMembersContinue, .addMember, .removeMember, .suspendMember, .unsuspendMember,
    .setAdminPermissions, .listGroups, .listGroupsContinue, .listGroupMembers,
    .listGroupMembersContinue, .addGroupMembers, .removeGroupMembers]

theorem mem_all (op : Operation) : op ∈ all := by cases op <;> decide

/-- The operation of a listing. -/
def list : Listing → Phase → Operation
  | .members, .start => .listMembers
  | .members, .continuing => .listMembersContinue
  | .groups, .start => .listGroups
  | .groups, .continuing => .listGroupsContinue
  | .groupMembers, .start => .listGroupMembers
  | .groupMembers, .continuing => .listGroupMembersContinue

def name : Operation → String
  | .listMembers => "list members"
  | .listMembersContinue => "continue listing members"
  | .addMember => "add member"
  | .removeMember => "remove member"
  | .suspendMember => "suspend member"
  | .unsuspendMember => "unsuspend member"
  | .setAdminPermissions => "set admin permissions"
  | .listGroups => "list groups"
  | .listGroupsContinue => "continue listing groups"
  | .listGroupMembers => "list group members"
  | .listGroupMembersContinue => "continue listing group members"
  | .addGroupMembers => "add group members"
  | .removeGroupMembers => "remove group members"

def path : Operation → String
  | .listMembers => "/2/team/members/list_v2"
  | .listMembersContinue => "/2/team/members/list/continue_v2"
  | .addMember => "/2/team/members/add_v2"
  | .removeMember => "/2/team/members/remove"
  | .suspendMember => "/2/team/members/suspend"
  | .unsuspendMember => "/2/team/members/unsuspend"
  | .setAdminPermissions => "/2/team/members/set_admin_permissions_v2"
  | .listGroups => "/2/team/groups/list"
  | .listGroupsContinue => "/2/team/groups/list/continue"
  | .listGroupMembers => "/2/team/groups/members/list"
  | .listGroupMembersContinue => "/2/team/groups/members/list/continue"
  | .addGroupMembers => "/2/team/groups/members/add"
  | .removeGroupMembers => "/2/team/groups/members/remove"

/-- The label of what fails in an operation. -/
def label (op : Operation) : Label := ⟨op.name⟩

instance : Coe Operation Label := ⟨label⟩

/-- No two operations have one label. -/
theorem label_injective {op op' : Operation} (h : op.label = op'.label) : op = op' :=
  have hall : ∀ op ∈ all, ∀ op' ∈ all, op.label = op'.label → op = op' := by decide +kernel
  hall op (mem_all op) op' (mem_all op') h

/-- Every operation is a POST. -/
def method (_ : Operation) : String := "POST"

/-- Every operation sends a body. -/
def requiresBody (_ : Operation) : Bool := true

end Operation

/-- Where the service is found: a base URL without slashes at its end. -/
structure Endpoints where
  base : String
  deriving DecidableEq, Repr

namespace Endpoints

def ofBase (url : String) : Endpoints := ⟨Text.dropTrailingSlashes url⟩

/-- The path of the token endpoint. -/
def tokenPath : String := "/oauth2/token"

def url (e : Endpoints) (op : Operation) : String := e.base ++ op.path

def tokenUrl (e : Endpoints) : String := e.base ++ tokenPath

end Endpoints

end TeamSync
