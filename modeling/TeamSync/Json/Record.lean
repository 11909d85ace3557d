import TeamSync.Json.Decoder

/-!
Decoders of declared records and variants.

A record is written as an object of its fields in any order, or as an array of its fields in
declared order. Members that are not declared are skipped; a field may be missing if it has a
default, but a field that is there has to be well typed, and no field may come twice.
-/

namespace TeamSync.Json

/-- What becomes of a field that is missing. -/
inductive Absence where
  /-- The record is refused. -/
  | refused
  /-- The field keeps its default, also at the end of an array. -/
  | defaulted
  /-- The field is left empty, but an array has to have it. -/
  | leftEmpty
  deriving DecidableEq, Repr

/-- A field of a record: reading it yields what it changes in the record. -/
structure Field (ρ : Type) where
  name : String
  absence : Absence
  read : Decoder (ρ → ρ)

/-- A record: what it is called, its value before any field is read, and its declared fields. -/
structure Record (ρ : Type) where
  name : String
  empty : ρ
  fields : List (Field ρ)

namespace Field

variable {ρ α : Type}

def make (absence : Absence) (name : String) (d : Decoder α) (set : α → ρ → ρ) : Field ρ :=
  ⟨name, absence, d.map set⟩

def required (name : String) (d : Decoder α) (set : α → ρ → ρ) : Field ρ :=
  make .refused name d set

def defaulted (name : String) (d : Decoder α) (set : α → ρ → ρ) : Field ρ :=
  make .defaulted name d set

def optional (name : String) (d : Decoder α) (set : Option α → ρ → ρ) : Field ρ :=
  make .leftEmpty name d.nullable set

end Field

/-- A number of things in words. -/
def counted (n : Nat) (noun : String) : String :=
  toString n ++ " " ++ noun ++ (if n = 1 then "" else "s")

namespace Record

variable {ρ : Type}

/-- The record with its number of fields in words. -/
def sized (r : Record ρ) : String := r.name ++ " with " ++ counted r.fields.length "element"

/-- What has been read of a record: its value so far and the names of the fields that were there. -/
structure Progress (ρ : Type) where
  value : ρ
  seen : List String

/-- Refuses a field that was there before. -/
def refuseTwice (p : Progress ρ) (f : Field ρ) : Except Fault Unit :=
  if f.name ∈ p.seen then .error (.duplicateField f.name) else .ok ()

/-- Reads one member. -/
def readMember (r : Record ρ) (depth : Nat) (p : Progress ρ) (key : String) (n : Node) :
    Except Fault (Progress ρ) :=
  match r.fields.find? (·.name == key) with
  | some f => do
    refuseTwice p f
    let change ← f.read depth n
    return ⟨change p.value, f.name :: p.seen⟩
  | none => do
    lift n.skim
    return p

/-- Reads the members in the order of the text. -/
def readMembers (r : Record ρ) (depth : Nat) (p : Progress ρ) :
    List (StringLiteral × Node) → Except Fault (Progress ρ)
  | [] => .ok p
  | (k, n) :: ms => do
    let key ← lift k.read
    let p ← r.readMember depth p key n
    r.readMembers depth p ms

/-- A key that breaks the object off may still repeat a field. -/
def checkKey (r : Record ρ) (p : Progress ρ) (key : String) : Except Fault Unit :=
  match r.fields.find? (·.name == key) with
  | some f => refuseTwice p f
  | none => .ok ()

/-- The record of all members, unless a field is missing. -/
def complete (r : Record ρ) (p : Progress ρ) : Except Fault ρ :=
  match r.fields.find? fun f => f.absence = .refused ∧ f.name ∉ p.seen with
  | some f => .error (.missingField f.name)
  | none => .ok p.value

/-- Reads fields by position; yields the elements that are left over. -/
def readElements (total : String) (depth : Nat) (stop : ArrayEnd) :
    Nat → ρ → List (Field ρ) → List Node → Except Fault (ρ × List Node)
  | _, x, [], ns => .ok (x, ns)
  | i, x, f :: fs, n :: ns => do
    let change ← f.read depth n
    readElements total depth stop (i + 1) (change x) fs ns
  | i, x, f :: fs, [] =>
    match stop.problem with
    | some m => fail m
    | none =>
      if f.absence = .defaulted then readElements total depth stop (i + 1) x fs []
      else .error (.wrongLength i total)

def decoder (r : Record ρ) : Decoder ρ := fun depth n =>
  match n with
  | .array ns stop => Decoder.nested depth fun depth => do
    let (x, rest) ← readElements r.sized depth stop 0 r.empty r.fields ns
    Decoder.endEarly rest stop x
  | .object ms stop => Decoder.nested depth fun depth => do
    let p ← r.readMembers depth ⟨r.empty, []⟩ ms
    let p ← Decoder.endOfMembers stop (r.checkKey p) p
    r.complete p
  | .stray ms _ => Decoder.nested depth fun depth => do
    let _ ← r.readMembers depth ⟨r.empty, []⟩ ms
    fail .keyExpected
  | n => mismatch r.name n

end Record

/-! ### Variants -/

namespace Variant

variable {α ρ : Type}

/-- Looks a name up among the known ones. -/
def find (known : List (String × α)) (name : String) : Except Fault α :=
  match known.find? (·.1 == name) with
  | some v => .ok v.2
  | none => .error (.unknownVariant name (known.map (·.1)))

/-- Reads the name of a variant. -/
def named (known : List (String × α)) : Decoder α := fun _ n =>
  match n with
  | .string s => do find known (← lift s.read)
  | n => mismatch "variant identifier" n

/-- After the only member of an object the object has to end. -/
def endOfOnly (rest : List (StringLiteral × Node)) (stop : ObjectEnd) (a : α) : Except Fault α :=
  if rest.isEmpty then
    match stop with
    | .closed => .ok a
    | .ending => fail .endInObject
    | _ => fail .valueExpected
  else fail .valueExpected

/-- The only member of an object names a variant; its value is `null`. -/
def only (known : List (String × α)) (depth : Nat) (k : StringLiteral) (n : Node) :
    Except Fault α := do
  let a ← find known (← lift k.read)
  Decoder.unit depth n
  return a

/-- Reads one of several names: a string, or an object that maps the name to `null`. -/
def decoder (known : List (String × α)) : Decoder α := fun depth n =>
  match n with
  | .string _ => named known depth n
  | .object [] stop => Decoder.nested depth fun _ =>
    match stop with
    | .brokenKey k => do let _ ← find known (← lift k.read); fail .endInString
    | .noColon k ending => do
      let _ ← find known (← lift k.read)
      fail (if ending then .endInObject else .colonExpected)
    | .ending => fail .endInObject
    | _ => fail .valueExpected
  | .object ((k, n) :: ms) stop => Decoder.nested depth fun depth => do
    let a ← only known depth k n
    endOfOnly ms stop a
  | .stray [] _ => Decoder.nested depth fun _ => fail .keyExpected
  | .stray ((k, n) :: _) _ => Decoder.nested depth fun depth => do
    let _ ← only known depth k n
    fail .valueExpected
  | .broken .endInValue => fail .endInValue
  | _ => fail .valueExpected

/-! A tagged record has its variant's name in the member `.tag`, beside the variant's fields. -/

def tagKey : String := ".tag"

/-- What has been read of a tagged object: its variant and its other members. -/
structure Tagged (ρ : Type) where
  variant : Option (Record ρ)
  members : List (StringLiteral × Node)

/-- Refuses a second tag. -/
def refuseTag (t : Tagged ρ) (key : String) : Except Fault Unit :=
  if key = tagKey ∧ t.variant.isSome then .error (.duplicateField tagKey) else .ok ()

/-- Reads members, keeping all but the tag for later. -/
def readTagged (known : List (String × Record ρ)) (depth : Nat) (t : Tagged ρ) :
    List (StringLiteral × Node) → Except Fault (Tagged ρ)
  | [] => .ok t
  | (k, n) :: ms => do
    let key ← lift k.read
    refuseTag t key
    if key = tagKey then
      let r ← named known depth n
      readTagged known depth { t with variant := some r } ms
    else
      let _ ← n.value depth
      readTagged known depth { t with members := t.members ++ [(k, n)] } ms

/-- Reads the fields of a variant by position; there may be no more elements than fields. -/
def positional (r : Record ρ) (depth : Nat) (ns : List Node) : Except Fault ρ := do
  let (x, rest) ← Record.readElements r.sized depth .closed 0 r.empty r.fields ns
  if rest.isEmpty then return x
  else throw (.wrongLength ns.length (counted r.fields.length "element" ++ " in sequence"))

/-- Reads a tagged record: an object, or an array that begins with the tag. -/
def tagged (name : String) (known : List (String × Record ρ)) : Decoder ρ := fun depth n =>
  match n with
  | .array [] stop => Decoder.nested depth fun _ => do
    Decoder.endOf stop ()
    throw (.missingField tagKey)
  | .array (n :: ns) stop => Decoder.nested depth fun depth => do
    let r ← named known depth n
    let _ ← valueElements depth ns
    Decoder.endOf stop ()
    positional r depth ns
  | .object ms stop => Decoder.nested depth fun depth => do
    let t ← readTagged known depth ⟨none, []⟩ ms
    let t ← Decoder.endOfMembers stop (refuseTag t) t
    match t.variant with
    | none => throw (.missingField tagKey)
    | some r => do
      let p ← r.readMembers depth ⟨r.empty, []⟩ t.members
      r.complete p
  | .stray ms _ => Decoder.nested depth fun depth => do
    let _ ← readTagged known depth ⟨none, []⟩ ms
    fail .keyExpected
  | n => mismatch name n

end Variant

end TeamSync.Json
