import WorkflowRules.Proofs.Json.Parts
import WorkflowRules.Proofs.Number.Reading

/-!
What is read of a JSON value that was written. It has the same parts in the same order, and is the
same value unless one of its numbers does not read back.
-/
namespace WorkflowRules.Json

mutual
/-- The value with what is read of each of its numbers. -/
def reread : Json → Json
  | .number value => .number value.reread
  | .array items => .array (rereadItems items)
  | .object fields => .object (rereadFields fields)
  | other => other
termination_by structural json => json
def rereadItems : List Json → List Json
  | [] => []
  | item :: rest => reread item :: rereadItems rest
termination_by structural items => items
def rereadFields : List (String × Json) → List (String × Json)
  | [] => []
  | (key, value) :: rest => (key, reread value) :: rereadFields rest
termination_by structural fields => fields
end

mutual
/-- All numbers of a value. -/
def numbers : Json → List Number
  | .number value => [value]
  | .array items => numbersOfItems items
  | .object fields => numbersOfFields fields
  | _ => []
termination_by structural json => json
def numbersOfItems : List Json → List Number
  | [] => []
  | item :: rest => numbers item ++ numbersOfItems rest
termination_by structural items => items
def numbersOfFields : List (String × Json) → List Number
  | [] => []
  | (_, value) :: rest => numbers value ++ numbersOfFields rest
termination_by structural fields => fields
end

/-- Reading what is written of a number of the value gives that number. -/
def NumbersReadBack (json : Json) : Prop :=
  ∀ number ∈ json.numbers, number.ReadsBack

instance : DecidablePred NumbersReadBack :=
  fun json => inferInstanceAs (Decidable (∀ number ∈ json.numbers, number.ReadsBack))

variable {json : Json} {items : List Json} {fields : Fields}

theorem rereadItems_eq_map (items : List Json) : rereadItems items = items.map reread := by
  induction items with
  | nil => rfl
  | cons item rest ih => rw [rereadItems, ih, List.map_cons]

theorem rereadFields_eq_map (fields : Fields) :
    rereadFields fields = fields.map fun field => (field.1, field.2.reread) := by
  induction fields with
  | nil => rfl
  | cons first rest ih => rw [rereadFields, ih, List.map_cons]

theorem numbersOfItems_eq_flatMap (items : List Json) :
    numbersOfItems items = items.flatMap numbers := by
  induction items with
  | nil => rfl
  | cons item rest ih => rw [numbersOfItems, ih, List.flatMap_cons]

theorem numbersOfFields_eq_flatMap (fields : Fields) :
    numbersOfFields fields = fields.flatMap fun field => field.2.numbers := by
  induction fields with
  | nil => rfl
  | cons first rest ih => rw [numbersOfFields, ih, List.flatMap_cons]

/-! ### The same value -/

theorem numbersReadBack_array_iff :
    (array items).NumbersReadBack ↔ ∀ item ∈ items, item.NumbersReadBack := by
  simp only [NumbersReadBack, numbers, numbersOfItems_eq_flatMap, List.mem_flatMap]
  exact ⟨fun all item mem number of => all number ⟨item, mem, of⟩,
    fun each number ⟨item, mem, of⟩ => each item mem number of⟩

theorem numbersReadBack_object_iff :
    (object fields).NumbersReadBack ↔ ∀ field ∈ fields, field.2.NumbersReadBack := by
  simp only [NumbersReadBack, numbers, numbersOfFields_eq_flatMap, List.mem_flatMap]
  exact ⟨fun all field mem number of => all number ⟨field, mem, of⟩,
    fun each number ⟨field, mem, of⟩ => each field mem number of⟩

theorem map_eq_self_iff {α : Type} {change : α → α} {items : List α} :
    items.map change = items ↔ ∀ item ∈ items, change item = item := by
  simpa using List.map_inj_left (l := items) (f := change) (g := id)

theorem reread_eq_self_iff : json.reread = json ↔ json.NumbersReadBack := by
  induction json with
  | null | bool | string => simp [reread, NumbersReadBack, numbers]
  | number value => simp [reread, NumbersReadBack, numbers, Number.readsBack_iff]
  | array items ih =>
    rw [reread, array.injEq, rereadItems_eq_map, map_eq_self_iff, numbersReadBack_array_iff]
    exact forall₂_congr ih
  | object fields ih =>
    rw [reread, object.injEq, rereadFields_eq_map, map_eq_self_iff, numbersReadBack_object_iff]
    refine forall₂_congr fun field mem => ?_
    rw [← ih field mem]
    exact ⟨congrArg Prod.snd, fun same => Prod.ext rfl same⟩

/-! ### Parts -/

theorem canonical_reread (json : Json) : json.reread.canonical = json.canonical.reread := by
  induction json with
  | null | bool | number | string => rfl
  | array items ih =>
    simp only [reread, canonical, rereadItems_eq_map, canonicalItems_eq_map, List.map_map]
    exact congrArg array (List.map_congr_left ih)
  | object fields ih =>
    simp only [reread, canonical, rereadFields_eq_map, canonicalFields_eq_map, List.map_map,
      map_sortFields]
    refine congrArg (object ∘ sortFields) (List.map_congr_left fun field mem => ?_)
    exact Prod.ext rfl (ih field mem)

theorem isNull_reread (json : Json) : json.reread.isNull = json.isNull := by
  cases json <;> rfl

def Value.reread (value : Value) : Value :=
  ⟨value.json.reread, by rw [canonical_reread, value.ordered]⟩

def Object.reread (object : Object) : Object :=
  ⟨rereadFields object.fields, by
    have same := canonical_reread (.object object.fields)
    rwa [object.ordered] at same⟩

end WorkflowRules.Json
