import TeamSync.Json.Value
import TeamSync.Text.Numeral

/-!
Sample answers of the team service, numbered so that every member differs from every other. Their
members stand in the order of their keys.
-/

namespace TeamSync.Sample

open Json

/-- A number with at least five digits. -/
def numbered (n : Nat) : String := String.ofList (Numeral.padded 5 n)

def memberId (n : Nat) : String := "dbmid:AAD" ++ numbered n

def email (n : Nat) : String := "user" ++ numbered n ++ "@example.com"

/-- The digits of a number. -/
def digits (n : Nat) : String := String.ofList (Numeral.ofNat n)

def tagged (tag : String) : Value := .object [(".tag", .string tag)]

def profile (n : Nat) (status : String) : Value :=
  .object [("account_id", .string ("dbid:AAH" ++ numbered n)), ("email", .string (email n)),
    ("email_verified", .bool true), ("groups", .array []), ("membership_type", tagged "full"),
    ("name", .object [("display_name", .string ("User " ++ digits n)),
      ("given_name", .string "User"), ("surname", .string (digits n))]),
    ("status", tagged status), ("team_member_id", .string (memberId n))]

def role (id name : String) : Value :=
  .object [("description", .string (name ++ " description")), ("name", .string name),
    ("role_id", .string id)]

def member (n : Nat) (roles : List Value) : Value :=
  .object [("profile", profile n "active"), ("roles", .array roles)]

def membersPage (members : List Value) (cursor : String) (hasMore : Bool) : Value :=
  .object [("cursor", .string cursor), ("has_more", .bool hasMore), ("members", .array members)]

/-- The cursor on the page with some index. -/
def cursor (index : Nat) : String := "AAGcursor-" ++ digits (index + 1)

/-- How many pages hold a number of members; there is always one. -/
def pageCount (total pageSize : Nat) : Nat := max 1 ((total + pageSize - 1) / pageSize)

/-- The page with some index of a team with `total` members. -/
def memberPage (total pageSize index : Nat) : Value :=
  let first := index * pageSize
  let numbers := List.range' first (min (first + pageSize) total - first)
  membersPage (numbers.map (member · [])) (cursor index) (index + 1 < pageCount total pageSize)

/-- A team with `total` members in pages of some size, at least one member each. -/
def memberPages (total pageSize : Nat) : List Value :=
  (List.range (pageCount total (max 1 pageSize))).map (memberPage total (max 1 pageSize))

def group (id name : String) (memberCount : UInt64) : Value :=
  .object [("group_id", .string id), ("group_management_type", tagged "company_managed"),
    ("group_name", .string name), ("member_count", .ofNat memberCount)]

def groupsPage (groups : List Value) (cursor : String) (hasMore : Bool) : Value :=
  .object [("cursor", .string cursor), ("groups", .array groups), ("has_more", .bool hasMore)]

def groupMember (n : Nat) (access : String) : Value :=
  .object [("access_type", tagged access), ("profile", profile n "active")]

/-- The answer to an invitation that went through. -/
def invited (n : Nat) : Value :=
  .object [(".tag", .string "complete"),
    ("complete", .array [.object [(".tag", .string "success"), ("profile", profile n "invited")]])]

/-- The answer to a removal. -/
def removed : Value := tagged "complete"

/-- The answer to an exchange. -/
def tokenAnswer (token : String) : Value :=
  .object [("access_token", .string token), ("expires_in", .ofNat 14400),
    ("token_type", .string "bearer")]

/-- The body of an error with a tag and maybe a summary. -/
def errorBody (tag : String) (summary : Option String) : Value :=
  .object (("error", tagged tag) ::
    match summary with
    | some s => [("error_summary", .string s)]
    | none => [])

end TeamSync.Sample
