import WorkflowRules.Loading
import WorkflowRules.Proofs.Json.RoundTrip
import WorkflowRules.Proofs.Steps

/-!
Loading what was printed. It begins with what is read of the value that was printed, unless the
text is too deep, and then it ends there.
-/
namespace WorkflowRules

open Json.Reader (Blank)

variable {json : Json} {trailing : String}

theorem loadJson_pretty_append_of_deep (blank : Blank trailing)
    (deep : Json.Reader.levelLimit < json.nesting) :
    ∃ place, loadJson (json.pretty ++ trailing) = .error (.notJson ⟨.tooDeep, place⟩) := by
  obtain ⟨place, stops⟩ := Json.parse_pretty_append_of_deep blank deep
  exact ⟨place, by rw [loadJson, stops]; rfl⟩

theorem loadJson_pretty_append (blank : Blank trailing)
    (shallow : json.nesting ≤ Json.Reader.levelLimit) :
    loadJson (json.pretty ++ trailing) = .ok json.reread.toValue := by
  rw [loadJson, Json.parse_pretty_append blank shallow]
  rfl

theorem loadJson_pretty_of_deep (deep : Json.Reader.levelLimit < json.nesting) :
    ∃ place, loadJson json.pretty = .error (.notJson ⟨.tooDeep, place⟩) := by
  simpa using loadJson_pretty_append_of_deep Json.Reader.blank_empty deep

theorem loadJson_pretty (shallow : json.nesting ≤ Json.Reader.levelLimit) :
    loadJson json.pretty = .ok json.reread.toValue := by
  simpa using loadJson_pretty_append Json.Reader.blank_empty shallow

end WorkflowRules
