import WorkflowRules.Json.Printer
import WorkflowRules.Json.Reader.Value
import WorkflowRules.Shape
import WorkflowRules.Text.Quotation

/-! Why a JSON value is refused where a certain type is expected. -/
namespace WorkflowRules.Json

/-- What was expected. Records and tagged unions go by the words of the messages. -/
inductive Expectation where
  | string
  | boolean
  | signedWord
  | map
  | sequence
  | unit
  | tag
  | stringOrMap
  | other (words : String)
deriving DecidableEq

def Expectation.text : Expectation → String
  | .string => "a string"
  | .boolean => "a boolean"
  | .signedWord => "i64"
  | .map => "a map"
  | .sequence => "a sequence"
  | .unit => "unit"
  | .tag => "variant identifier"
  | .stringOrMap => "string or map"
  | .other words => words

/-- What stood there instead: a scalar with its value, or the kind of a container. -/
def foundText : Json → String
  | .null => "null"
  | .bool value => "boolean `" ++ String.ofList (boolChars value) ++ "`"
  | .number (.integer value _) =>
    "integer `" ++ String.ofList (Number.integerLiteral value).chars ++ "`"
  | .number (.double value) =>
    "floating point `" ++ String.ofList (Number.doubleLiteral value).chars ++ "`"
  | .string value => "string " ++ Text.quotation value
  | .array _ => "sequence"
  | .object _ => "map"

inductive Mismatch where
  | type (found : Json) (expected : Expectation)
  | notSignedWord (value : Int)
  | notOneKey
  | missingField (field : String)
  | duplicateField (field : String)
  | unknownVariant (name : String) (known : List String)
  | tooShort (length : Nat) (title : String) (size : Nat)
  | tooLong (length : Nat)
  | tooLongSequence (length size : Nat)
  | shape (error : ShapeError)

def Mismatch.message : Mismatch → String
  | .type found expected => "invalid type: " ++ foundText found ++ ", expected " ++ expected.text
  | .notSignedWord value =>
    "invalid value: integer `" ++ String.ofList (Number.integerLiteral value).chars ++
      "`, expected i64"
  | .notOneKey => "invalid value: map, expected map with a single key"
  | .missingField field => "missing field `" ++ field ++ "`"
  | .duplicateField field => "duplicate field `" ++ field ++ "`"
  | .unknownVariant name known =>
    "unknown variant `" ++ name ++ "`, expected one of " ++
      ", ".intercalate (known.map fun name => "`" ++ name ++ "`")
  | .tooShort length title size =>
    "invalid length " ++ toString length ++ ", expected " ++ title ++ " with " ++
      toString size ++ " elements"
  | .tooLong length =>
    "invalid length " ++ toString length ++ ", expected fewer elements in array"
  | .tooLongSequence length size =>
    "invalid length " ++ toString length ++ ", expected " ++ toString size ++
      " elements in sequence"
  | .shape error => error.message

/-- Why a text is refused where a certain type is expected. -/
inductive Refusal where
  | fault (cause : Fault)
  | mismatch (cause : Mismatch)

instance : CoversFaults Refusal := ⟨.fault⟩

def Refusal.message : Refusal → String
  | .fault cause => cause.message
  | .mismatch cause => cause.message

def Located.refusalMessage (refusal : Located Refusal) : String :=
  refusal.cause.message ++ " at " ++ refusal.place.text

end WorkflowRules.Json
