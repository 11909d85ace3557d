import TeamSync.Graph.Resource

/-!
Entitlements, which can be held of a resource, and grants, which say who holds them. The key of an
entitlement begins with that of its resource and the key of a grant with that of its entitlement.
-/

namespace TeamSync

open Json

/-- What can be held of a resource. -/
structure Entitlement where
  id : String
  resource : Resource
  slug : String
  displayName : String
  description : String
  grantableTo : List ResourceKind

namespace Entitlement

/-- What users can be given of a resource. -/
def assignment (r : Resource) (slug displayName description : String) : Entitlement :=
  ⟨r.id.text ++ ":" ++ slug, r, slug, displayName, description, [.user]⟩

def toJson (e : Entitlement) : Value :=
  .object [("id", .string e.id), ("resource", e.resource.toJson), ("slug", .string e.slug),
    ("display_name", .string e.displayName), ("description", .string e.description),
    ("grantable_to", .array (e.grantableTo.map ResourceKind.toJson))]

def empty : Entitlement := ⟨"", Resource.record.empty, "", "", "", []⟩

def record : Record Entitlement :=
  ⟨"struct Entitlement", empty,
    [.required "id" Decoder.string fun s e => { e with id := s },
      .required "resource" Resource.record.decoder fun r e => { e with resource := r },
      .required "slug" Decoder.string fun s e => { e with slug := s },
      .required "display_name" Decoder.string fun s e => { e with displayName := s },
      .required "description" Decoder.string fun s e => { e with description := s },
      .required "grantable_to" ResourceKind.decoder.list fun ks e => { e with grantableTo := ks }]⟩

end Entitlement

/-- A fact of the graph: a principal holds an entitlement. -/
structure Grant where
  id : String
  entitlement : Entitlement
  principal : ResourceId

namespace Grant

/-- The grant of an entitlement to a principal. -/
def held (e : Entitlement) (principal : ResourceId) : Grant :=
  ⟨e.id ++ ":" ++ principal.text, e, principal⟩

def toJson (g : Grant) : Value :=
  .object [("id", .string g.id), ("entitlement", g.entitlement.toJson),
    ("principal", g.principal.toJson)]

def record : Record Grant :=
  ⟨"struct Grant", ⟨"", .empty, ⟨.user, ""⟩⟩,
    [.required "id" Decoder.string fun s g => { g with id := s },
      .required "entitlement" Entitlement.record.decoder fun e g => { g with entitlement := e },
      .required "principal" ResourceId.record.decoder fun p g => { g with principal := p }]⟩

end Grant

end TeamSync
