import TeamSync.Connector

/-!
What a host can ask of a connector, as data, and what it gets.
-/

namespace TeamSync

open Json

/-- What a host asks for. -/
inductive Command where
  | list (kind : ResourceKind) (parent : Option ResourceId) (token : PageToken)
  | entitlements (kind : ResourceKind) (resource : Resource)
  | grants (kind : ResourceKind) (resource : Resource) (token : PageToken)
  | grant (kind : ResourceKind) (principal : Resource) (entitlement : Entitlement)
  | revoke (kind : ResourceKind) (grant : Grant)
  | createAccount (kind : ResourceKind) (attributes : Members)
  | deleteAccount (kind : ResourceKind) (id : ResourceId)
  | invoke (action : String) (args : Members)
  | validate

/-- What a command answers when it succeeds. -/
inductive Reply where
  | resources (page : SyncPage Resource)
  | entitlements (es : List Entitlement)
  | grants (page : SyncPage Grant)
  | account (a : CreatedAccount)
  | value (v : Value) (annotations : Annotations)
  | annotations (as : Annotations)
  /-- Resources of the kind are not granted. -/
  | noProvisioner
  /-- Resources of the kind are no accounts. -/
  | noAccountManager

namespace Reply

/-- What is said beside the answer. -/
def notes : Reply → Annotations
  | .resources page => page.annotations
  | .grants page => page.annotations
  | .account a => a.annotations
  | .value _ as | .annotations as => as
  | .entitlements _ | .noProvisioner | .noAccountManager => []

/-- The token to carry on with, if the answer is a page. -/
def next? : Reply → Option PageToken
  | .resources page => some page.next
  | .grants page => some page.next
  | _ => none

end Reply

namespace Connector

/-- Carries out a command. -/
def perform (c : Connector) : Command → Step Reply
  | .list kind parent token => do
    let page ← (c.syncer kind).list parent token
    pure (.resources page)
  | .entitlements kind r => do
    let es ← Step.ofExcept ((c.syncer kind).entitlements r)
    pure (.entitlements es)
  | .grants kind r token => do
    let page ← (c.syncer kind).grants r token
    pure (.grants page)
  | .grant kind principal e =>
    match (c.syncer kind).provisioner with
    | some p => do
      let as ← p.grant principal e
      pure (.annotations as)
    | none => pure .noProvisioner
  | .revoke kind g =>
    match (c.syncer kind).provisioner with
    | some p => do
      let as ← p.revoke g
      pure (.annotations as)
    | none => pure .noProvisioner
  | .createAccount kind attributes =>
    match (c.syncer kind).accounts with
    | some m => do
      let a ← m.create attributes
      pure (.account a)
    | none => pure .noAccountManager
  | .deleteAccount kind id =>
    match (c.syncer kind).accounts with
    | some m => do
      let as ← m.delete id
      pure (.annotations as)
    | none => pure .noAccountManager
  | .invoke action args => do
    let (v, as) ← c.invoke action args
    pure (.value v as)
  | .validate => do
    let as ← c.validate
    pure (.annotations as)

end Connector

end TeamSync
