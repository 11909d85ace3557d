import TeamSync.Directory
import TeamSync.Sync.Syncer

/-!
Groups: who is in them as a member and who as an owner, and changes to that.
-/

namespace TeamSync

/-- The name of an access at the start of a sentence. -/
def GroupAccess.title : GroupAccess → String
  | .member => "Member"
  | .owner => "Owner"

def GroupAccess.all : List GroupAccess := [.member, .owner]

namespace Groups

open Json

/-- The resource of a group. Its attributes stand in the order of their keys. -/
def resource (g : Group) (parent : Option ResourceId) : Resource :=
  ⟨⟨.group, g.id⟩, g.name, parent,
    [("id", .string g.id), ("management_type", .string g.management),
      ("member_count", .ofNat g.memberCount), ("name", .string g.name)],
    none⟩

/-- The resources of a page of groups. -/
def resources (parent : Option ResourceId) (gs : List Group) : List Resource :=
  gs.map fun g => resource g parent

def list (d : Directory) (parent : Option ResourceId) (token : PageToken) :
    Step (SyncPage Resource) := do
  let page ← d.groups.fetch token
  pure (.ofPage page (resources parent))

/-! ### Entitlements and grants -/

/-- The entitlement to an access. -/
def entitlement (r : Resource) (a : GroupAccess) : Entitlement :=
  .assignment r a.name (r.displayName ++ " Group " ++ a.name)
    (a.title ++ " of " ++ r.displayName ++ " Dropbox group")

def entitlements (r : Resource) : Except Error (List Entitlement) := do
  let _ ← r.id.expectKind .group
  return GroupAccess.all.map (entitlement r)

/-- The grant of an entry, if its access is known. -/
def grantOf? (r : Resource) (m : GroupMember) : Option Grant :=
  m.knownAccess?.map fun a => .held (entitlement r a) ⟨.user, m.profile.memberId⟩

/-- The grants of a page of a group's members. -/
def grantsOf (r : Resource) (ms : List GroupMember) : List Grant := ms.filterMap (grantOf? r)

/-- Tells the operator of each entry that is left out. -/
def logSkipped (ms : List GroupMember) : Step Unit :=
  (ms.filter fun m => m.knownAccess?.isNone).forM fun m =>
    Step.log .debug "Skipping unknown access type"
      [("team_member_id", .text m.profile.memberId), ("access_type", .text m.access)]

def grants (d : Directory) (r : Resource) (token : PageToken) : Step (SyncPage Grant) := do
  let group ← Step.ofExcept (r.id.expectKind .group)
  let page ← (d.groupMembers group).fetch token
  logSkipped page.items
  pure (.ofPage page (grantsOf r))

/-! ### Changes -/

/-- The access a slug stands for. -/
def accessOf (slug : String) : Except Error GroupAccess :=
  match GroupAccess.ofTag? slug with
  | some a => .ok a
  | none => .error (.argument (.unknownEntitlement slug ResourceKind.group.name))

def grant (d : Directory) (principal : Resource) (e : Entitlement) : Step Annotations := do
  let member ← Step.ofExcept principal.id.expectUser
  let group ← Step.ofExcept (e.resource.id.expectKind .group)
  let access ← Step.ofExcept (accessOf e.slug)
  let outcome ← d.addToGroup group member access
  pure (outcome.annotations .grantAlreadyExists)

def revoke (d : Directory) (g : Grant) : Step Annotations := do
  let member ← Step.ofExcept g.principal.expectUser
  let group ← Step.ofExcept (g.entitlement.resource.id.expectKind .group)
  let _ ← Step.ofExcept (accessOf g.entitlement.slug)
  let outcome ← d.removeFromGroup group member
  pure (outcome.annotations .grantAlreadyRevoked)

def syncer (d : Directory) : Syncer where
  kind := .group
  list := list d
  entitlements := entitlements
  grants := grants d
  provisioner := some ⟨grant d, revoke d⟩
  accounts := none

end Groups

end TeamSync
