import TeamSync.Json.Literal

/-!
JSON values and their compact text.

A free-form object keeps its members in increasing order of their keys, the later of two members
with one key winning; a record is written with its fields in declared order. Both are lists of
members here, and a value is printed as it stands.
-/

namespace TeamSync.Json

/-- A value. An object keeps its members in the order of their keys. -/
inductive Value where
  | null
  | bool (b : Bool)
  | number (n : Number)
  | string (s : String)
  | array (elements : List Value)
  | object (members : List (String × Value))

/-- The members of an object. -/
abbrev Members := List (String × Value)

namespace Value

def ofNat (n : UInt64) : Value :=
  .number (.int n.toNat (by have := n.toNat_lt; omega))

def text (s : String) : Value := .string s

end Value

namespace Members

/-- Puts a member where the order of keys wants it, in place of one with the same key. -/
def insert (key : String) (v : Value) : Members → Members
  | [] => [(key, v)]
  | (k, w) :: ms =>
    if key < k then (key, v) :: (k, w) :: ms
    else if key = k then (key, v) :: ms
    else (k, w) :: insert key v ms

def get? (key : String) (ms : Members) : Option Value := (ms.find? (·.1 == key)).map (·.2)

/-- Members in any order, put into the order of their keys. -/
def ofList (ms : List (String × Value)) : Members := ms.foldl (fun acc m => insert m.1 m.2 acc) []

end Members

/-! ### Printing -/

/-- A digit of a control character's number. -/
def hexDigit (n : Nat) : Char := (Nat.digitChar n)

/-- One character inside a string. -/
def escapeChar (c : Char) : List Char :=
  if c = '"' then ['\\', '"']
  else if c = '\\' then ['\\', '\\']
  else if c = '\x08' then ['\\', 'b']
  else if c = '\x0C' then ['\\', 'f']
  else if c = '\n' then ['\\', 'n']
  else if c = '\r' then ['\\', 'r']
  else if c = '\t' then ['\\', 't']
  else if c.toNat < 0x20 then
    ['\\', 'u', '0', '0', hexDigit (c.toNat / 16), hexDigit (c.toNat % 16)]
  else [c]

/-- A string between quotes. -/
def quoted (s : String) : List Char := '"' :: (s.toList.flatMap escapeChar ++ ['"'])

mutual

/-- The compact text of a value. -/
def Value.render : Value → List Char
  | .null => ['n', 'u', 'l', 'l']
  | .bool true => ['t', 'r', 'u', 'e']
  | .bool false => ['f', 'a', 'l', 's', 'e']
  | .number n => n.text
  | .string s => quoted s
  | .array [] => ['[', ']']
  | .array (v :: vs) => '[' :: (v.render ++ renderElements vs)
  | .object [] => ['{', '}']
  | .object ((k, v) :: ms) => '{' :: (quoted k ++ ':' :: (v.render ++ renderMembers ms))

/-- The elements after the first, and the end of the array. -/
def renderElements : List Value → List Char
  | [] => [']']
  | v :: vs => ',' :: (v.render ++ renderElements vs)

/-- The members after the first, and the end of the object. -/
def renderMembers : List (String × Value) → List Char
  | [] => ['}']
  | (k, v) :: ms => ',' :: (quoted k ++ ':' :: (v.render ++ renderMembers ms))

end

/-- The compact text of a value, as a string. -/
def Value.toText (v : Value) : String := String.ofList v.render

end TeamSync.Json
