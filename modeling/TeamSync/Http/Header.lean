import TeamSync.Text.Utf8

/-!
HTTP header fields.

A header map keeps one value for each name. Names are compared without case and kept in lower case;
a name or value that HTTP does not allow drops its own field and no other.
-/

namespace TeamSync.Http

/-- The characters of a header name. -/
def isNameChar (c : Char) : Bool :=
  c.isAlphanum || "!#$%&'*+-.^_`|~".toList.elem c

/-- How many characters a header name may have. -/
def longestName : Nat := 65535

/-- A header name in lower case. -/
def headerName? (s : String) : Option String :=
  if s.toList ≠ [] ∧ s.toList.length ≤ longestName ∧ s.toList.all isNameChar then
    some (String.ofList (s.toList.map Char.toLower))
  else none

/-- The characters of a header value: no control but the tab. -/
def isValueChar (c : Char) : Bool := c = '\t' || (0x20 ≤ c.toNat && c.toNat ≠ 0x7F)

/-- Whether a text may be sent as a header value. -/
def isHeaderValue (s : String) : Bool := s.toList.all isValueChar

/-- Whether a value can be read as text: it holds visible ASCII, spaces and tabs. -/
def isReadable (s : String) : Bool :=
  s.toList.all fun c => c = '\t' || (0x20 ≤ c.toNat && c.toNat < 0x7F)

/-- Header fields by lower-case name, each name once, in order of first appearance. -/
abbrev Headers := List (String × String)

namespace Headers

/-- Sets the value of a name, in place of any earlier one. -/
def set (name value : String) : Headers → Headers
  | [] => [(name, value)]
  | (n, v) :: hs => if n = name then (name, value) :: hs else (n, v) :: set name value hs

/-- Adds a field as it was written, or leaves the map as it is if HTTP does not allow the field. -/
def add (hs : Headers) (name value : String) : Headers :=
  match headerName? name with
  | some n => if isHeaderValue value then hs.set n value else hs
  | none => hs

def ofList (fields : List (String × String)) : Headers :=
  fields.foldl (fun hs f => hs.add f.1 f.2) []

/-- The value of a lower-case name. -/
def get? (hs : Headers) (name : String) : Option String := (hs.find? (·.1 == name)).map (·.2)

theorem get?_cons (field : String × String) (hs : Headers) (name : String) :
    get? (field :: hs) name = if field.1 = name then some field.2 else get? hs name := by
  by_cases h : field.1 = name
  · rw [get?, List.find?_cons_of_pos (by simp [h]), if_pos h]
    rfl
  · rw [get?, List.find?_cons_of_neg (by simp [h]), if_neg h]
    rfl

/-- The value of a name in any case; what is no header name has none. -/
def value? (hs : Headers) (name : String) : Option String := (headerName? name).bind hs.get?

/-- The value of a lower-case name, if it can be read as text. -/
def text? (hs : Headers) (name : String) : Option String := (hs.get? name).filter isReadable

end Headers

end TeamSync.Http
