import TeamSync.Directory
import TeamSync.Sync.Syncer

/-!
Administrator roles. The service does not list them, so they are gathered from the members who hold
them: both listings go through all members at once and come in a single page.
-/

namespace TeamSync.Roles

/-- The resource of a role. Its attributes stand in the order of their keys. -/
def resource (r : Role) (parent : Option ResourceId) : Resource :=
  ⟨⟨.role, r.id⟩, r.name, parent,
    [("description", .string r.description), ("id", .string r.id), ("name", .string r.name)], none⟩

/-- The roles whose identifiers have not been seen, each where it first occurs. -/
def unseen (seen : List String) : List Role → List Role
  | [] => []
  | r :: rs => if r.id ∈ seen then unseen seen rs else r :: unseen (r.id :: seen) rs

/-- The roles that some member holds. -/
def heldRoles (ms : List Member) : List Role := unseen [] (ms.flatMap (·.roles))

def list (d : Directory) (parent : Option ResourceId) (_ : PageToken) :
    Step (SyncPage Resource) := do
  let all ← d.members.drain
  let roles := (heldRoles all.items).map fun r => resource r parent
  Step.log .debug "Roles collected" [("pages", .count all.pages), ("roles", .count roles.length)]
  pure (.last roles [.rateLimit all.rateLimit])

/-! ### Entitlements and grants -/

/-- What can be held of a role. -/
def slug : String := "member"

def entitlement (r : Resource) : Entitlement :=
  .assignment r slug (r.displayName ++ " Role " ++ slug)
    ("Member of " ++ r.displayName ++ " Dropbox role")

def entitlements (r : Resource) : Except Error (List Entitlement) := do
  let _ ← r.id.expectKind .role
  return [entitlement r]

/-- Whether a member holds a role. -/
def holds (m : Member) (role : String) : Bool := m.roles.any (·.id == role)

/-- The grants of a role to the members who hold it. -/
def grantsOf (r : Resource) (ms : List Member) : List Grant :=
  (ms.filter (holds · r.id.id)).map fun m => .held (entitlement r) ⟨.user, m.profile.memberId⟩

def grants (d : Directory) (r : Resource) (_ : PageToken) : Step (SyncPage Grant) := do
  let _ ← Step.ofExcept (r.id.expectKind .role)
  let all ← d.members.drain
  pure (.last (grantsOf r all.items) [.rateLimit all.rateLimit])

/-! ### Changes -/

def expectSlug (s : String) : Except Error Unit :=
  if s = slug then .ok ()
  else .error (.argument (.unknownEntitlement s ResourceKind.role.name))

/-- Gives a member the role in place of all others. -/
def grant (d : Directory) (principal : Resource) (e : Entitlement) : Step Annotations := do
  let member ← Step.ofExcept principal.id.expectUser
  let role ← Step.ofExcept (e.resource.id.expectKind .role)
  Step.ofExcept (expectSlug e.slug)
  let outcome ← d.assignRole member role
  pure (outcome.annotations .grantAlreadyExists)

/-- Takes all roles from a member, because the service cannot take a single one. -/
def revoke (d : Directory) (g : Grant) : Step Annotations := do
  let member ← Step.ofExcept g.principal.expectUser
  let _ ← Step.ofExcept (g.entitlement.resource.id.expectKind .role)
  Step.ofExcept (expectSlug g.entitlement.slug)
  let outcome ← d.clearRoles member
  pure (outcome.annotations .grantAlreadyRevoked)

def syncer (d : Directory) : Syncer where
  kind := .role
  list := list d
  entitlements := entitlements
  grants := grants d
  provisioner := some ⟨grant d, revoke d⟩
  accounts := none

end TeamSync.Roles
