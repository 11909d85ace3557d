import TeamSync.Client
import TeamSync.Config
import TeamSync.Directory.Answer

/-!
The team service as its callers see it: the three listings, invitations and removals, and the
mutations that may be repeated. Each request but a listing's addresses one member.
-/

namespace TeamSync

open Json

/-- The calls to the service, with the limit of a listing's pages and the error tags that a mutation
takes for success. -/
structure Directory where
  client : Client
  allowed : AllowList
  limit : PageLimit

/-- What a configuration says about the use of a client. -/
def Directory.ofConfig (client : Client) (c : Config) : Directory :=
  ⟨client, c.allowed, c.pageLimit⟩

namespace Directory

variable {α : Type}

/-! ### Listings -/

def limitField (d : Directory) : String × Value := ("limit", .ofNat d.limit.size.toUInt64)

/-- The body of a call that carries on; the cursor alone says with what. -/
def cursorBody (cursor : String) : Value := .object [("cursor", .string cursor)]

/-- Calls for one page. -/
def page (d : Directory) (r : Record (PageBody α)) (op : Operation) (body : Value) :
    Step (Page α) := do
  let a ← d.client.call r.decoder op (some body)
  pure (a.value.page a.rateLimit)

/-- Carries a listing on. -/
def carryOn (d : Directory) (r : Record (PageBody α)) (listing : Listing) (cursor : String) :
    Step (Page α) := do
  Step.ofExcept (requireCursor listing cursor)
  d.page r (.list listing .continuing) (cursorBody cursor)

/-- A listing that starts with some filters. -/
def listing (d : Directory) (r : Record (PageBody α)) (listing : Listing)
    (filters : List (String × Value)) : Paged α :=
  ⟨listing, d.page r (.list listing .start) (.object filters), d.carryOn r listing⟩

/-- All members, also those who were removed. -/
def members (d : Directory) : Paged Member :=
  d.listing PageBody.members .members [d.limitField, ("include_removed", .bool true)]

def groups (d : Directory) : Paged Group := d.listing PageBody.groups .groups [d.limitField]

def groupMembers (d : Directory) (group : String) : Paged GroupMember :=
  d.listing PageBody.groupMembers .groupMembers
    [("group", (GroupSelector.groupId group).toJson), d.limitField]

/-! ### Accounts -/

def userJson (member : String) : Value := (UserSelector.memberId member).toJson

/-- The body of a call about one member. -/
def memberBody (member : String) : Value := .object [("user", userJson member)]

/-- Invites one new member. -/
def invite (d : Directory) (email : String) : Step (Answered InviteAnswer) :=
  d.client.call InviteAnswer.record.decoder .addMember
    (some (.object [("new_members", .array [.object [("member_email", .string email)]])]))

/-- Removes a member; the answer has to have a tag. -/
def remove (d : Directory) (member : String) : Step (Answered String) := do
  let a ← d.client.call removalRecord.decoder .removeMember (some (memberBody member))
  if a.value = "" then Step.fail (.response (.unexpected "empty response from remove member"))
  else pure a

/-! ### Mutations that may be repeated -/

def mutate (d : Directory) (kind : MutationKind) (op : Operation) (body : Value) :
    Step MutationOutcome := do
  let r ← (d.client.callDiscard op (some body)).attempt
  settle kind d.allowed r

def suspend (d : Directory) (member : String) : Step MutationOutcome :=
  d.mutate .suspend .suspendMember (memberBody member)

def unsuspend (d : Directory) (member : String) : Step MutationOutcome :=
  d.mutate .unsuspend .unsuspendMember (memberBody member)

/-- The body that replaces all roles of a member. -/
def rolesBody (member : String) (roles : List String) : Value :=
  .object [("new_roles", .array (roles.map .string)), ("user", userJson member)]

/-- Gives a member one role in place of all others. -/
def assignRole (d : Directory) (member role : String) : Step MutationOutcome :=
  d.mutate .addRole .setAdminPermissions (rolesBody member [role])

/-- Takes all roles from a member. -/
def clearRoles (d : Directory) (member : String) : Step MutationOutcome :=
  d.mutate .clearRoles .setAdminPermissions (rolesBody member [])

def addToGroup (d : Directory) (group member : String) (access : GroupAccess) :
    Step MutationOutcome :=
  d.mutate .addToGroup .addGroupMembers
    (.object [("group", (GroupSelector.groupId group).toJson),
      ("members", .array [.object [("access_type", tagJson access.name),
        ("user", userJson member)]]),
      ("return_members", .bool false)])

def removeFromGroup (d : Directory) (group member : String) : Step MutationOutcome :=
  d.mutate .removeFromGroup .removeGroupMembers
    (.object [("group", (GroupSelector.groupId group).toJson), ("users", .array [userJson member]),
      ("return_members", .bool false)])

end Directory

end TeamSync
