import TeamSync.Graph.Annotation
import TeamSync.Graph.Entitlement

/-!
What a host can do with the resources of one kind.
-/

namespace TeamSync

/-- Giving and taking entitlements. -/
structure Provisioner where
  grant : Resource → Entitlement → Step Annotations
  revoke : Grant → Step Annotations

/-- An account that was made. -/
structure CreatedAccount where
  resource : Resource
  annotations : Annotations

/-- Making and ending accounts. An account is made from free-form attributes. -/
structure AccountManager where
  create : Json.Members → Step CreatedAccount
  delete : ResourceId → Step Annotations

/-- How resources of one kind are read and, where there is a way, changed. -/
structure Syncer where
  kind : ResourceKind
  list : Option ResourceId → PageToken → Step (SyncPage Resource)
  entitlements : Resource → Except Error (List Entitlement)
  grants : Resource → PageToken → Step (SyncPage Grant)
  provisioner : Option Provisioner
  accounts : Option AccountManager

end TeamSync
