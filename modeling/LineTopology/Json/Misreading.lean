import LineTopology.Json.Basic

namespace LineTopology.Json

inductive Cause
  | endOfList
  | endOfObject
  | endOfString
  | endOfValue
  | expectedColon
  | expectedListComma
  | expectedObjectComma
  | expectedWord
  | expectedValue
  | invalidEscape
  | invalidNumber
  | numberOutOfRange
  | controlCharacter
  | keyNotString
  | loneSurrogate
  | brokenSurrogate
  | trailingComma
  | trailingCharacters
  | tooDeep
  | wrongType (found : Found) (expected : String)
  | unknownName (name : String) (known : List String)
  | duplicateField (name : String)
  deriving DecidableEq

def marked (name : String) : String := "`" ++ name ++ "`"

def Cause.text : Cause → String
  | .endOfList => "EOF while parsing a list"
  | .endOfObject => "EOF while parsing an object"
  | .endOfString => "EOF while parsing a string"
  | .endOfValue => "EOF while parsing a value"
  | .expectedColon => "expected `:`"
  | .expectedListComma => "expected `,` or `]`"
  | .expectedObjectComma => "expected `,` or `\x7d`"
  | .expectedWord => "expected ident"
  | .expectedValue => "expected value"
  | .invalidEscape => "invalid escape"
  | .invalidNumber => "invalid number"
  | .numberOutOfRange => "number out of range"
  | .controlCharacter => "control character (\\u0000-\\u001F) found while parsing a string"
  | .keyNotString => "key must be a string"
  | .loneSurrogate => "lone leading surrogate in hex escape"
  | .brokenSurrogate => "unexpected end of hex escape"
  | .trailingComma => "trailing comma"
  | .trailingCharacters => "trailing characters"
  | .tooDeep => "recursion limit exceeded"
  | .wrongType found expected => found.against expected
  | .unknownName name known =>
      "unknown variant " ++ marked name ++ ", expected one of " ++
        ", ".intercalate (known.map marked)
  | .duplicateField name => "duplicate field " ++ marked name

/-- A cause with the number of bytes in front of the place it is reported at. -/
structure Fault where
  cause : Cause
  offset : Nat

/-- Lines count from one; a column is the number of bytes since the last line break. -/
structure Place where
  line : Nat
  column : Nat
  deriving DecidableEq

/-- The place that lies `offset` bytes further in the text, which may be inside a character. -/
def Place.advance (place : Place) : List Char → Nat → Place
  | [], _ => place
  | c :: cs, offset =>
      if offset < c.utf8Size then ⟨place.line, place.column + offset⟩
      else if c = '\n' then advance ⟨place.line + 1, 0⟩ cs (offset - 1)
      else advance ⟨place.line, place.column + c.utf8Size⟩ cs (offset - c.utf8Size)

structure Misreading where
  cause : Cause
  place : Place
  deriving DecidableEq

def Fault.within (fault : Fault) (text : String) : Misreading :=
  ⟨fault.cause, Place.advance ⟨1, 0⟩ text.toList fault.offset⟩

def Misreading.text (m : Misreading) : String :=
  m.cause.text ++ " at line " ++ String.ofList (Text.decimal m.place.line) ++
    " column " ++ String.ofList (Text.decimal m.place.column)

end LineTopology.Json
