import TeamSync.Json.Node

/-!
Scanning a JSON text, as a fold over its bytes.

The state is what is being read and the stack of containers around it, innermost first. Each byte
moves the state once; `finish` says what the end of the text makes of it. A completed node is handed
to the innermost container, a break closes every container around it.
-/

namespace TeamSync.Json.Scan

/-- A container that is still open; what it holds so far is in reverse order. -/
inductive Frame where
  | array (elements : List Node)
  | object (members : List (StringLiteral × Node))
  | member (members : List (StringLiteral × Node)) (key : StringLiteral)
  | stray (members : List (StringLiteral × Node))

/-- Where inside an escape a string stands; hexadecimal digits are in reverse order. -/
inductive Escape where
  | none
  | begun
  | hex (digits : List UInt8)
  deriving DecidableEq, Repr

/-- Which part of a number comes next. -/
inductive NumberPart where
  | sign
  | zero
  | whole
  | point
  | fraction
  | mark
  | markSign
  | exponent
  deriving DecidableEq, Repr

/-- A number so far, digits in reverse order. -/
structure PartialNumber where
  part : NumberPart
  negative : Bool
  whole : List Nat
  fraction : List Nat
  exponent : Option (Bool × List Nat)

/-- What the scan is in the middle of. -/
inductive Mode where
  /-- A value must follow. -/
  | value
  /-- Just inside an array. -/
  | element
  /-- After a comma in an array. -/
  | nextElement
  /-- Just inside an object. -/
  | key
  /-- After a comma in an object. -/
  | nextKey
  /-- After a key. -/
  | colon (key : StringLiteral)
  /-- After an element or a member. -/
  | separator
  /-- Inside a string, which may be a key; its pieces are in reverse order. -/
  | text (isKey : Bool) (pieces : List Piece) (escape : Escape)
  | number (n : PartialNumber)
  /-- Inside a word that has yet to be completed. -/
  | word (rest : List UInt8) (node : Node)
  /-- After the whole text. -/
  | done (node : Node)
  /-- After something that follows the whole text. -/
  | trailing (node : Node)
  /-- After a break. -/
  | stopped (node : Node)

/-- The scan between two bytes: its mode, under the open arrays and objects. -/
structure State where
  mode : Mode
  stack : List Frame

def start : State := ⟨.value, []⟩

/-- The four blanks of the format. -/
def isBlank (b : UInt8) : Bool := b == 0x20 || b == 0x0A || b == 0x0D || b == 0x09

def isDigit (b : UInt8) : Bool := 0x30 ≤ b && b ≤ 0x39

def digit (b : UInt8) : Nat := b.toNat - 0x30

/-- The value of a hexadecimal digit of either case. -/
def hexDigit? (b : UInt8) : Option Nat :=
  if 0x30 ≤ b && b ≤ 0x39 then some (b.toNat - 0x30)
  else if 0x41 ≤ b && b ≤ 0x46 then some (b.toNat - 0x37)
  else if 0x61 ≤ b && b ≤ 0x66 then some (b.toNat - 0x57)
  else none

/-- The byte that a one-letter escape stands for. -/
def shortEscape? (b : UInt8) : Option UInt8 :=
  if b == 0x22 || b == 0x5C || b == 0x2F then some b
  else if b == 0x62 then some 0x08
  else if b == 0x66 then some 0x0C
  else if b == 0x6E then some 0x0A
  else if b == 0x72 then some 0x0D
  else if b == 0x74 then some 0x09
  else none

/-- A broken node inside open containers breaks them all. -/
def close (n : Node) (stack : List Frame) : Node :=
  stack.foldl (fun n frame => match frame with
    | .array elements => .array (n :: elements).reverse .cut
    | .object members => .object members.reverse .cut
    | .member members key => .object ((key, n) :: members).reverse .cut
    | .stray members => .stray members.reverse n) n

def stop (n : Node) (stack : List Frame) : State := ⟨.stopped (close n stack), []⟩

/-- Hands a complete node to the innermost container. -/
def deliver (n : Node) : List Frame → State
  | [] => ⟨.done n, []⟩
  | .array elements :: stack => ⟨.separator, .array (n :: elements) :: stack⟩
  | .member members key :: stack => ⟨.separator, .object ((key, n) :: members) :: stack⟩
  | .stray members :: stack => stop (.stray members.reverse n) stack
  | .object members :: stack => stop (.object members.reverse .cut) stack

/-- Ends the innermost container where it stands. -/
def endArray (how : ArrayEnd) : List Frame → Option (Node × List Frame)
  | .array elements :: stack => some (.array elements.reverse how, stack)
  | _ => none

def endObject (how : ObjectEnd) : List Frame → Option (Node × List Frame)
  | .object members :: stack => some (.object members.reverse how, stack)
  | _ => none

/-- Ends the innermost container; a complete one is handed on and a broken one stops the scan. -/
def leaveArray (how : ArrayEnd) (stack : List Frame) : State :=
  match endArray how stack with
  | some (n, rest) => if how = .closed then deliver n rest else stop n rest
  | none => stop (.broken .valueExpected) stack

def leaveObject (how : ObjectEnd) (stack : List Frame) : State :=
  match endObject how stack with
  | some (n, rest) => if how = .closed then deliver n rest else stop n rest
  | none => stop (.broken .valueExpected) stack

/-- The first byte of a value. -/
def beginValue (b : UInt8) (stack : List Frame) : State :=
  if b == 0x22 then ⟨.text false [] .none, stack⟩
  else if b == 0x7B then ⟨.key, .object [] :: stack⟩
  else if b == 0x5B then ⟨.element, .array [] :: stack⟩
  else if b == 0x2D then ⟨.number ⟨.sign, true, [], [], none⟩, stack⟩
  else if b == 0x30 then ⟨.number ⟨.zero, false, [0], [], none⟩, stack⟩
  else if isDigit b then ⟨.number ⟨.whole, false, [digit b], [], none⟩, stack⟩
  else if b == 0x6E then ⟨.word [0x75, 0x6C, 0x6C] .null, stack⟩
  else if b == 0x74 then ⟨.word [0x72, 0x75, 0x65] (.bool true), stack⟩
  else if b == 0x66 then ⟨.word [0x61, 0x6C, 0x73, 0x65] (.bool false), stack⟩
  else stop (.broken .valueExpected) stack

/-- Something else where a key should stand: it is read as a value. -/
def beginStray (b : UInt8) : List Frame → State
  | .object members :: stack => beginValue b (.stray members :: stack)
  | stack => beginValue b stack

/-- A key, or what stands for one, is complete. -/
def closeText (isKey : Bool) (s : StringLiteral) (stack : List Frame) : State :=
  if isKey then
    if s.broken.isNone then ⟨.colon s, stack⟩ else leaveObject (.brokenKey s) stack
  else if s.broken.isNone then deliver (.string s) stack
  else stop (.string s) stack

def breakText (isKey : Bool) (pieces : List Piece) (how : StringBreak) (stack : List Frame) :
    State :=
  closeText isKey ⟨pieces.reverse, some how⟩ stack

/-- The code unit of four hexadecimal digits given in reverse order. -/
def codeUnit? (digits : List UInt8) : Option Nat :=
  digits.reverse.foldlM (fun n b => (hexDigit? b).map (n * 16 + ·)) 0

def stepText (isKey : Bool) (pieces : List Piece) (escape : Escape) (stack : List Frame)
    (b : UInt8) : State :=
  match escape with
  | .none =>
    if b == 0x22 then closeText isKey ⟨pieces.reverse, none⟩ stack
    else if b == 0x5C then ⟨.text isKey pieces .begun, stack⟩
    else if b < 0x20 then breakText isKey pieces .control stack
    else ⟨.text isKey (.byte b :: pieces) .none, stack⟩
  | .begun =>
    if b == 0x75 then ⟨.text isKey pieces (.hex []), stack⟩
    else match shortEscape? b with
      | some c => ⟨.text isKey (.short c :: pieces) .none, stack⟩
      | none => breakText isKey pieces .escape stack
  | .hex digits =>
    if digits.length < 3 then ⟨.text isKey pieces (.hex (b :: digits)), stack⟩
    else match codeUnit? (b :: digits) with
      | some u => ⟨.text isKey (.unit u :: pieces) .none, stack⟩
      | none => breakText isKey pieces .hex stack

/-- A number as far as it has been read. -/
def PartialNumber.literal (n : PartialNumber) (broken : Option NumberBreak) : NumberLiteral :=
  ⟨n.negative, n.whole.reverse, n.fraction.reverse, n.exponent.map fun e => (e.1, e.2.reverse),
    broken⟩

/-- Whether a number may end here. -/
def NumberPart.mayEnd : NumberPart → Bool
  | .zero | .whole | .fraction | .exponent => true
  | .sign | .point | .mark | .markSign => false

/-- A digit more. A second digit after a leading zero is wrong. -/
def PartialNumber.pushDigit (n : PartialNumber) (d : Nat) : Option PartialNumber :=
  match n.part with
  | .sign => some { n with part := if d = 0 then .zero else .whole, whole := [d] }
  | .zero => none
  | .whole => some { n with whole := d :: n.whole }
  | .point | .fraction => some { n with part := .fraction, fraction := d :: n.fraction }
  | .mark => some { n with part := .exponent, exponent := some (false, [d]) }
  | .markSign | .exponent =>
    some { n with part := .exponent, exponent := n.exponent.map fun e => (e.1, d :: e.2) }

/-- A byte that moves a number on to its next part. -/
def PartialNumber.advance (n : PartialNumber) (b : UInt8) : Option PartialNumber :=
  match n.part with
  | .zero | .whole =>
    if b == 0x2E then some { n with part := .point }
    else if b == 0x65 || b == 0x45 then some { n with part := .mark }
    else none
  | .fraction => if b == 0x65 || b == 0x45 then some { n with part := .mark } else none
  | .mark =>
    if b == 0x2B then some { n with part := .markSign, exponent := some (false, []) }
    else if b == 0x2D then some { n with part := .markSign, exponent := some (true, []) }
    else none
  | _ => none

/-- A byte between the parts of a container, or after the whole text. -/
def stepBetween (mode : Mode) (stack : List Frame) (b : UInt8) : State :=
  if isBlank b then ⟨mode, stack⟩
  else match mode with
    | .value => beginValue b stack
    | .element => if b == 0x5D then leaveArray .closed stack else beginValue b stack
    | .nextElement => if b == 0x5D then leaveArray .trailingComma stack else beginValue b stack
    | .key =>
      if b == 0x22 then ⟨.text true [] .none, stack⟩
      else if b == 0x7D then leaveObject .closed stack
      else beginStray b stack
    | .nextKey =>
      if b == 0x22 then ⟨.text true [] .none, stack⟩
      else if b == 0x7D then leaveObject .trailingComma stack
      else beginStray b stack
    | .colon key =>
      if b == 0x3A then
        match stack with
        | .object members :: rest => ⟨.value, .member members key :: rest⟩
        | _ => ⟨.value, stack⟩
      else leaveObject (.noColon key false) stack
    | .separator =>
      match stack with
      | .array _ :: _ =>
        if b == 0x2C then ⟨.nextElement, stack⟩
        else if b == 0x5D then leaveArray .closed stack
        else leaveArray .noSeparator stack
      | _ =>
        if b == 0x2C then ⟨.nextKey, stack⟩
        else if b == 0x7D then leaveObject .closed stack
        else leaveObject .noSeparator stack
    | .done n => ⟨.trailing n, stack⟩
    | mode => ⟨mode, stack⟩

/-- A byte that cannot stand in a number nor end it. -/
def breakNumber (n : PartialNumber) (stack : List Frame) : State :=
  stop (.number (n.literal (some .wrong))) stack

/-- A complete number is handed on before the byte that ends it is read. -/
def stepNumber (n : PartialNumber) (stack : List Frame) (b : UInt8) : State :=
  if isDigit b then
    match n.pushDigit (digit b) with
    | some n => ⟨.number n, stack⟩
    | none => breakNumber n stack
  else match n.advance b with
    | some n => ⟨.number n, stack⟩
    | none =>
      if n.part.mayEnd then
        let s := deliver (.number (n.literal none)) stack
        stepBetween s.mode s.stack b
      else breakNumber n stack

/-- Reads one byte. -/
def step (s : State) (b : UInt8) : State :=
  match s.mode with
  | .text isKey pieces escape => stepText isKey pieces escape s.stack b
  | .number n => stepNumber n s.stack b
  | .word rest node =>
    match rest with
    | c :: rest =>
      if b == c then if rest.isEmpty then deliver node s.stack else ⟨.word rest node, s.stack⟩
      else stop (.brokenWord .wordExpected) s.stack
    | [] => stop (.brokenWord .wordExpected) s.stack
  | .trailing _ | .stopped _ => s
  | mode => stepBetween mode s.stack b

def run (s : State) (bs : List UInt8) : State := bs.foldl step s

/-- The document of a state that no byte can change any more. -/
def State.settled? (s : State) : Option Document :=
  match s.mode with
  | .done n => some ⟨n, false⟩
  | .trailing n => some ⟨n, true⟩
  | .stopped n => some ⟨n, false⟩
  | _ => none

/-- The state after the end of the text. -/
def finish (s : State) : State :=
  match s.mode with
  | .value => stop (.broken .endInValue) s.stack
  | .element => leaveArray .ending s.stack
  | .nextElement => leaveArray .endingAfterComma s.stack
  | .key => leaveObject .ending s.stack
  | .nextKey => leaveObject .endingAfterComma s.stack
  | .colon key => leaveObject (.noColon key true) s.stack
  | .separator =>
    match s.stack with
    | .array _ :: _ => leaveArray .ending s.stack
    | _ => leaveObject .ending s.stack
  | .text isKey pieces _ => breakText isKey pieces .ending s.stack
  | .number n =>
    if n.part.mayEnd then deliver (.number (n.literal none)) s.stack
    else stop (.number (n.literal (some .ending))) s.stack
  | .word _ _ => stop (.brokenWord .endInValue) s.stack
  | _ => s

end TeamSync.Json.Scan

namespace TeamSync.Json

/-- The structure of a text. -/
def scan (bs : List UInt8) : Document :=
  (Scan.finish (Scan.finish (Scan.run Scan.start bs))).settled?.getD ⟨.broken .endInValue, false⟩

end TeamSync.Json
