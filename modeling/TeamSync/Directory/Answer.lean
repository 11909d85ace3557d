import TeamSync.Group
import TeamSync.Page

/-!
What the team service answers to listings, invitations and removals.
-/

namespace TeamSync

open Json

/-- The body of a page, to which the rate limit is still to come. -/
structure PageBody (α : Type) where
  cursor : String
  hasMore : Bool
  items : List α
  deriving DecidableEq, Repr

namespace PageBody

variable {α : Type}

def page (b : PageBody α) (r : RateLimit) : Page α := ⟨b.items, b.cursor, b.hasMore, r⟩

/-- The wire form of a page, with its entries in the member `items`. -/
def record (name items : String) (d : Decoder α) : Record (PageBody α) :=
  ⟨"struct " ++ name, ⟨"", false, []⟩,
    [.defaulted "cursor" Decoder.string fun s b => { b with cursor := s },
      .defaulted "has_more" Decoder.bool fun more b => { b with hasMore := more },
      .defaulted items d.list fun as b => { b with items := as }]⟩

def members : Record (PageBody Member) :=
  record "ListMembersResponse" "members" Member.record.decoder

def groups : Record (PageBody Group) := record "ListGroupsResponse" "groups" Group.record.decoder

def groupMembers : Record (PageBody GroupMember) :=
  record "ListGroupMembersResponse" "members" GroupMember.record.decoder

end PageBody

/-- What became of one invitation. -/
structure Invited where
  tag : String
  profile : Option Profile
  deriving DecidableEq, Repr

/-- The answer to invitations. -/
structure InviteAnswer where
  tag : String
  complete : List Invited
  deriving DecidableEq, Repr

def Invited.record : Record Invited :=
  ⟨"struct AddMemberResult", ⟨"", none⟩,
    [.defaulted ".tag" Decoder.string fun t i => { i with tag := t },
      .defaulted "profile" Profile.record.decoder.nullable fun p i => { i with profile := p }]⟩

namespace InviteAnswer

def record : Record InviteAnswer :=
  ⟨"struct AddMembersResponse", ⟨"", []⟩,
    [.defaulted ".tag" Decoder.string fun t a => { a with tag := t },
      .defaulted "complete" Invited.record.decoder.list fun is a => { a with complete := is }]⟩

/-- The tag of an invitation that went through. -/
def successTag : String := "success"

/-- The profile of the one new member. -/
def newMember (a : InviteAnswer) : Except Error Profile :=
  match a.complete with
  | [] => .error (.provisioning .emptyCompletion)
  | i :: _ =>
    if i.tag = successTag then
      match i.profile with
      | some p => .ok p
      | none => .error (.provisioning .emptyCompletion)
    else .error (.provisioning (.notCompleted i.tag))

end InviteAnswer

/-- The wire form of the answer to a removal, of which only the tag is read. -/
def removalRecord : Record String := tagRecord "RemoveMemberResponse"

end TeamSync
