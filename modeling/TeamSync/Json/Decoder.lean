import TeamSync.Json.Scan
import TeamSync.Json.Value

/-!
Decoders: readers of nodes that keep what they read.

A decoder gets the number of containers that may still be nested and a node. It meets the parts of
the node in the order of the text, so the first fault of the text is the one it reports.
-/

namespace TeamSync.Json

/-- Containers that are kept may nest to this depth. -/
def depthLimit : Nat := 127

abbrev Decoder (α : Type) := Nat → Node → Except Fault α

/-- Turns a problem of the text into a fault. -/
def lift {α : Type} (r : Except Malformed α) : Except Fault α := r.mapError .malformed

/-- The fault of a node that is not what its place asks for. -/
def mismatch {α : Type} (expected : String) (n : Node) : Except Fault α := do
  throw (.wrongType (← lift n.describe) expected)

def fail {α : Type} (m : Malformed) : Except Fault α := .error (.malformed m)

namespace Decoder

variable {α β : Type}

def map (f : α → β) (d : Decoder α) : Decoder β := fun depth n => (d depth n).map f

/-- Reads what a container holds, one level down. -/
def nested (depth : Nat) (k : Nat → Except Fault α) : Except Fault α :=
  match depth with
  | 0 => fail .tooDeep
  | depth + 1 => k depth

def string : Decoder String := fun _ n =>
  match n with
  | .string s => lift s.read
  | n => mismatch "a string" n

def bool : Decoder Bool := fun _ n =>
  match n with
  | .bool b => .ok b
  | n => mismatch "a boolean" n

/-- Reads an integer of a range; `kind` names the range. -/
def intIn (kind : String) (lo hi : Int) : Decoder Int := fun _ n =>
  match n with
  | .number l => do
    match ← lift l.read with
    | .int i h =>
      if lo ≤ i ∧ i < hi then .ok i else .error (.wrongValue (Number.int i h).describe kind)
    | x => .error (.wrongType x.describe kind)
  | n => mismatch kind n

def uint64 : Decoder UInt64 := map (fun i => i.toNat.toUInt64) (intIn "u64" 0 0x10000000000000000)

def int64 : Decoder Int := intIn "i64" (-0x8000000000000000) 0x8000000000000000

/-- Reads `null` as nothing. -/
def nullable (d : Decoder α) : Decoder (Option α) := fun depth n =>
  match n with
  | .null => .ok none
  | n => (d depth n).map some

/-- Reads nothing but `null`. -/
def unit : Decoder Unit := fun _ n =>
  match n with
  | .null => .ok ()
  | n => mismatch "unit" n

/-- The end of an array whose elements have all been read. -/
def endOf (stop : ArrayEnd) (a : α) : Except Fault α :=
  match stop.problem with
  | none => .ok a
  | some m => fail m

def list (d : Decoder α) : Decoder (List α) := fun depth n =>
  match n with
  | .array ns stop => nested depth fun depth => do
    let as ← ns.mapM (d depth)
    endOf stop as
  | n => mismatch "a sequence" n

/-- The end of an object after its last member, for a reader that goes through all of them.
A key is read before what follows it is looked at. -/
def endOfMembers (stop : ObjectEnd) (onKey : String → Except Fault Unit) (a : α) : Except Fault α :=
  match stop with
  | .closed => .ok a
  | .cut => fail .endInValue
  | .ending => fail .endInObject
  | .noSeparator => fail .memberSeparatorExpected
  | .trailingComma => fail .trailingComma
  | .endingAfterComma => fail .endInValue
  | .brokenKey key => do
    onKey (← lift key.read)
    fail .endInString
  | .noColon key ending => do
    onKey (← lift key.read)
    fail (if ending then .endInObject else .colonExpected)

/-- An array whose remaining elements nobody asks for has to end there. -/
def endEarly (rest : List Node) (stop : ArrayEnd) (a : α) : Except Fault α :=
  if rest.isEmpty then
    match stop with
    | .closed => .ok a
    | .ending => fail .endInArray
    | .trailingComma => fail .trailingComma
    | .cut | .noSeparator | .endingAfterComma => fail .trailingCharacters
  else fail .trailingCharacters

end Decoder

/-! ### Free-form values -/

mutual

/-- Reads any value. -/
def Node.value (depth : Nat) : Node → Except Fault Value
  | .null => .ok .null
  | .bool b => .ok (.bool b)
  | .number l => return .number (← lift l.read)
  | .string s => return .string (← lift s.read)
  | .array ns stop =>
    if depth = 0 then fail .tooDeep
    else do
      let vs ← valueElements (depth - 1) ns
      Decoder.endOf stop (.array vs)
  | .object ms stop =>
    if depth = 0 then fail .tooDeep
    else do
      let vs ← valueMembers (depth - 1) [] ms
      Decoder.endOfMembers stop (fun _ => .ok ()) (.object vs)
  | .stray ms _ =>
    if depth = 0 then fail .tooDeep
    else do
      let _ ← valueMembers (depth - 1) [] ms
      fail .keyExpected
  | .brokenWord problem | .broken problem => fail problem

def valueElements (depth : Nat) : List Node → Except Fault (List Value)
  | [] => .ok []
  | n :: ns => do
    let v ← n.value depth
    let vs ← valueElements depth ns
    return v :: vs

/-- Reads members into those read before, the later of two with one key winning. -/
def valueMembers (depth : Nat) (acc : Members) :
    List (StringLiteral × Node) → Except Fault Members
  | [] => .ok acc
  | (k, n) :: ms => do
    let key ← lift k.read
    let v ← n.value depth
    valueMembers depth (acc.insert key v) ms

end

namespace Decoder

def value : Decoder Value := Node.value

/-- Reads a free-form object. -/
def members : Decoder Members := fun depth n =>
  match n with
  | .object .. | .stray .. => do
    match ← n.value depth with
    | .object ms => .ok ms
    | _ => .ok []
  | n => mismatch "a map" n

/-! ### Whole texts -/

variable {α : Type}

/-- Decodes a text that holds one value and blanks around it. -/
def decode (d : Decoder α) (bs : List UInt8) : Except Fault α := do
  let doc := scan bs
  let a ← d depthLimit doc.root
  if doc.trailing then fail .trailingCharacters else .ok a

end Decoder

/-- Reads a text as a free-form value. -/
def parse (bs : List UInt8) : Except Fault Value := Decoder.value.decode bs

end TeamSync.Json
