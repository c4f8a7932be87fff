import WorkflowRules.Json.Reader.Value

/-! The text of a notification payload while it is being typed. -/
namespace WorkflowRules

inductive PayloadTextError where
  | notJson (fault : Json.Located Json.Fault)
  | array
  | notObject

def PayloadTextError.message : PayloadTextError → String
  | .notJson fault => "payload is not valid JSON: " ++ fault.faultMessage
  | .array => "payload must be a JSON object, not an array"
  | .notObject => "payload must be a JSON object"

/-- The payload a text stands for, which must be an object. -/
def readPayloadText (text : String) : Except PayloadTextError Json.Object :=
  match Json.parse text with
  | .ok ⟨.object fields, ordered⟩ => .ok ⟨fields, ordered⟩
  | .ok ⟨.array _, _⟩ => .error .array
  | .ok _ => .error .notObject
  | .error fault => .error (.notJson fault)

end WorkflowRules
