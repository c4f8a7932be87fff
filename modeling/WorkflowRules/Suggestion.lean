import WorkflowRules.Entity
import WorkflowRules.Limits

/-! Suggestions of field paths while one is being typed. -/
namespace WorkflowRules

/-- Keys of custom fields by entity, and how many suggestions to make. -/
structure Suggester where
  customKeys : Entity → List String
  limit : UInt64

namespace Suggester

/-- Custom fields are addressed behind this. -/
def customPrefix : String := "custom_fields."

def new (limits : Limits) : Suggester :=
  ⟨fun _ => [], limits.suggestionLimit⟩

/-- Registers the custom keys of an entity in place of earlier ones. -/
def setCustomKeys (suggester : Suggester) (entity : Entity) (keys : List String) : Suggester :=
  { suggester with
    customKeys := fun other => if other = entity then keys else suggester.customKeys other }

/-- Known fields, then custom ones, each path once. -/
def candidates (suggester : Suggester) (entity : Entity) : List String :=
  (entity.fields ++ (suggester.customKeys entity).map (customPrefix ++ ·)).eraseDups

def occursIn (needle : List Char) : List Char → Bool
  | [] => needle.isEmpty
  | c :: rest => needle.isPrefixOf (c :: rest) || occursIn needle rest

/-- Whether the trimmed input occurs in the candidate, case aside. -/
def isMatch (input candidate : String) : Bool :=
  occursIn (Text.lowerChars (Text.trimChars input.toList)) (Text.lowerChars candidate.toList)

def allMatches (suggester : Suggester) (entity : Entity) (input : String) : List String :=
  (suggester.candidates entity).filter (isMatch input)

def suggest (suggester : Suggester) (entity : Entity) (input : String) : List String :=
  (suggester.allMatches entity input).take suggester.limit.toNat

end Suggester

end WorkflowRules
