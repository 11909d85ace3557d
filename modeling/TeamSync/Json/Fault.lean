/-!
Why a JSON text cannot be decoded: it is malformed, or a well-formed part of it is not what its
place asks for. A text is read from left to right and the first fault met is the one reported. A
fault says what is wrong and not at which line and column, so its message ends before the words for
these.
-/

namespace TeamSync.Json

/-- What is wrong with the characters of a text. -/
inductive Malformed where
  | valueExpected
  | wordExpected
  | colonExpected
  | memberSeparatorExpected
  | elementSeparatorExpected
  | keyExpected
  | trailingComma
  | trailingCharacters
  | endInValue
  | endInObject
  | endInArray
  | endInString
  | invalidNumber
  | numberOutOfRange
  | invalidEscape
  | loneSurrogate
  | surrogateCutShort
  | controlCharacter
  | invalidUnicode
  | tooDeep
  deriving DecidableEq, Repr

def Malformed.message : Malformed → String
  | .valueExpected => "expected value"
  | .wordExpected => "expected ident"
  | .colonExpected => "expected `:`"
  | .memberSeparatorExpected => "expected `,` or `\x7d`"
  | .elementSeparatorExpected => "expected `,` or `]`"
  | .keyExpected => "key must be a string"
  | .trailingComma => "trailing comma"
  | .trailingCharacters => "trailing characters"
  | .endInValue => "EOF while parsing a value"
  | .endInObject => "EOF while parsing an object"
  | .endInArray => "EOF while parsing a list"
  | .endInString => "EOF while parsing a string"
  | .invalidNumber => "invalid number"
  | .numberOutOfRange => "number out of range"
  | .invalidEscape => "invalid escape"
  | .loneSurrogate => "lone leading surrogate in hex escape"
  | .surrogateCutShort => "unexpected end of hex escape"
  | .controlCharacter => "control character (\\u0000-\\u001F) found while parsing a string"
  | .invalidUnicode => "invalid unicode code point"
  | .tooDeep => "recursion limit exceeded"

/-- Why a text does not decode. What was found and what was asked for are given in words. -/
inductive Fault where
  | malformed (problem : Malformed)
  | wrongType (found expected : String)
  | wrongValue (found expected : String)
  | missingField (field : String)
  | duplicateField (field : String)
  | unknownVariant (found : String) (known : List String)
  | wrongLength (found : Nat) (expected : String)
  deriving DecidableEq, Repr

/-- A list of alternatives in words. -/
def alternatives : List String → String
  | [] => "there are no variants"
  | [a] => "expected `" ++ a ++ "`"
  | [a, b] => "expected `" ++ a ++ "` or `" ++ b ++ "`"
  | as => "expected one of " ++ ", ".intercalate (as.map fun a => "`" ++ a ++ "`")

def Fault.message : Fault → String
  | .malformed m => m.message
  | .wrongType found expected => "invalid type: " ++ found ++ ", expected " ++ expected
  | .wrongValue found expected => "invalid value: " ++ found ++ ", expected " ++ expected
  | .missingField field => "missing field `" ++ field ++ "`"
  | .duplicateField field => "duplicate field `" ++ field ++ "`"
  | .unknownVariant found known => "unknown variant `" ++ found ++ "`, " ++ alternatives known
  | .wrongLength found expected =>
    "invalid length " ++ toString found ++ ", expected " ++ expected

end TeamSync.Json
