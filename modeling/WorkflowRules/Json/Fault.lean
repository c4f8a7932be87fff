/-! What can be wrong with a JSON text, and where. -/
namespace WorkflowRules.Json

inductive Fault where
  | endInValue
  | endInList
  | endInObject
  | endInString
  | noValue
  | noWord
  | badNumber
  | numberOutOfRange
  | noListSeparator
  | noObjectSeparator
  | noColon
  | keyNotString
  | trailingComma
  | trailingCharacters
  | badEscape
  | loneSurrogate
  | unpairedSurrogate
  | controlCharacter
  | tooDeep
deriving DecidableEq

def Fault.message : Fault → String
  | .endInValue => "EOF while parsing a value"
  | .endInList => "EOF while parsing a list"
  | .endInObject => "EOF while parsing an object"
  | .endInString => "EOF while parsing a string"
  | .noValue => "expected value"
  | .noWord => "expected ident"
  | .badNumber => "invalid number"
  | .numberOutOfRange => "number out of range"
  | .noListSeparator => "expected `,` or `]`"
  | .noObjectSeparator => "expected `,` or `\x7d`"
  | .noColon => "expected `:`"
  | .keyNotString => "key must be a string"
  | .trailingComma => "trailing comma"
  | .trailingCharacters => "trailing characters"
  | .badEscape => "invalid escape"
  | .loneSurrogate => "lone leading surrogate in hex escape"
  | .unpairedSurrogate => "unexpected end of hex escape"
  | .controlCharacter => "control character (\\u0000-\\u001F) found while parsing a string"
  | .tooDeep => "recursion limit exceeded"

/-- Lines from one; the column counts the bytes of the line up to the place. -/
structure Place where
  line : Nat
  column : Nat
deriving DecidableEq

/-- Moves over the first `bytes` bytes of a text; a line feed begins a line. -/
def Place.advance (place : Place) : Nat → List Char → Place
  | _, [] => place
  | bytes, c :: rest =>
    if bytes < c.utf8Size then ⟨place.line, place.column + bytes⟩
    else if c = '\n' then Place.advance ⟨place.line + 1, 0⟩ (bytes - c.utf8Size) rest
    else Place.advance ⟨place.line, place.column + c.utf8Size⟩ (bytes - c.utf8Size) rest

def Place.text (place : Place) : String :=
  "line " ++ toString place.line ++ " column " ++ toString place.column

def byteLength (cs : List Char) : Nat :=
  cs.foldl (fun length c => length + c.utf8Size) 0

/-- Why reading stopped, what was left of the text, and how many bytes of that the
report takes in. -/
structure Stop (ε : Type) where
  cause : ε
  rest : List Char
  beyond : Nat

/-- A cause together with its place in the text. -/
structure Located (ε : Type) where
  cause : ε
  place : Place

def Stop.locate {ε : Type} (stop : Stop ε) (text : List Char) : Located ε :=
  let bytes := byteLength text - byteLength stop.rest + stop.beyond
  ⟨stop.cause, Place.advance ⟨1, 0⟩ bytes text⟩

def Located.faultMessage (fault : Located Fault) : String :=
  fault.cause.message ++ " at " ++ fault.place.text

end WorkflowRules.Json
