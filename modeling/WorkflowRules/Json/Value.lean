import WorkflowRules.Json.Basic

/-! JSON values in canonical form, which is what a program holds of a JSON text: there
two objects with the same fields are the same. Putting a value in canonical form a
second time changes nothing, so every value has one. -/
namespace WorkflowRules.Json

/-- The keys increase, so none stands twice. -/
def Sorted (fields : Fields) : Prop :=
  fields.Pairwise fun before after => before.1 < after.1

theorem key_lt_of_not_le {key other : String} (different : key ≠ other)
    (above : ¬key < other) : other < key := by
  grind

theorem mem_insertField {key : String} {value : Json} {fields : Fields}
    {field : String × Json} (mem : field ∈ insertField key value fields) :
    field = (key, value) ∨ field ∈ fields := by
  induction fields with
  | nil => simpa [insertField] using mem
  | cons first rest ih => grind [insertField]

theorem sorted_insertField (key : String) (value : Json) {fields : Fields}
    (sorted : Sorted fields) : Sorted (insertField key value fields) := by
  induction fields with
  | nil => simp [insertField, Sorted]
  | cons first rest ih =>
    obtain ⟨other, old⟩ := first
    obtain ⟨above, sortedRest⟩ := List.pairwise_cons.1 sorted
    unfold insertField
    split
    · next same =>
      subst same
      exact List.pairwise_cons.2 ⟨above, sortedRest⟩
    · next different =>
      split
      · next below =>
        refine List.pairwise_cons.2 ⟨fun field mem => ?_, sorted⟩
        rcases List.mem_cons.1 mem with rfl | mem
        · exact below
        · exact String.lt_trans below (above field mem)
      · next notBelow =>
        refine List.pairwise_cons.2 ⟨fun field mem => ?_, ih sortedRest⟩
        rcases mem_insertField mem with rfl | mem
        · exact key_lt_of_not_le different notBelow
        · exact above field mem

theorem sorted_sortFields (fields : Fields) : Sorted (sortFields fields) := by
  suffices ∀ sorted : Fields, Sorted sorted →
      Sorted (fields.foldl (fun sorted field => insertField field.1 field.2 sorted) sorted) from
    this [] List.Pairwise.nil
  induction fields with
  | nil => exact fun _ sorted => sorted
  | cons first rest ih => exact fun _ sorted => ih _ (sorted_insertField _ _ sorted)

theorem insertField_of_above {key : String} {value : Json} {fields : Fields}
    (below : ∀ field ∈ fields, field.1 < key) :
    insertField key value fields = fields ++ [(key, value)] := by
  induction fields with
  | nil => rfl
  | cons first rest ih =>
    obtain ⟨other, old⟩ := first
    have less : other < key := below (other, old) (by simp)
    have different : key ≠ other := fun same => String.lt_irrefl _ (same ▸ less)
    have notBelow : ¬key < other := String.lt_asymm less
    simp [insertField, different, notBelow, ih fun field mem => below field (by simp [mem])]

theorem sortFields_of_sorted {fields : Fields} (sorted : Sorted fields) :
    sortFields fields = fields := by
  suffices ∀ before : Fields, Sorted (before ++ fields) →
      fields.foldl (fun sorted field => insertField field.1 field.2 sorted) before =
        before ++ fields from this [] sorted
  clear sorted
  induction fields with
  | nil => simp
  | cons first rest ih =>
    intro before sorted
    have below : ∀ field ∈ before, field.1 < first.1 := fun field mem =>
      (List.pairwise_append.1 sorted).2.2 field mem first (by simp)
    rw [List.foldl_cons, insertField_of_above below,
      ih _ (by simpa [Sorted] using sorted), List.append_assoc, List.singleton_append]

/-! A change of the values alone leaves the order of the fields as it is. -/

theorem map_insertField (change : Json → Json) (key : String) (value : Json) (fields : Fields) :
    (insertField key value fields).map (fun field => (field.1, change field.2)) =
      insertField key (change value) (fields.map fun field => (field.1, change field.2)) := by
  induction fields with
  | nil => rfl
  | cons first rest ih => grind [insertField]

theorem map_sortFields (change : Json → Json) (fields : Fields) :
    (sortFields fields).map (fun field => (field.1, change field.2)) =
      sortFields (fields.map fun field => (field.1, change field.2)) := by
  suffices ∀ sorted : Fields,
      (fields.foldl (fun sorted field => insertField field.1 field.2 sorted) sorted).map
          (fun field => (field.1, change field.2)) =
        (fields.map fun field => (field.1, change field.2)).foldl
          (fun sorted field => insertField field.1 field.2 sorted)
          (sorted.map fun field => (field.1, change field.2)) from this []
  induction fields with
  | nil => exact fun _ => rfl
  | cons first rest ih =>
    intro sorted
    rw [List.foldl_cons, ih, map_insertField, List.map_cons, List.foldl_cons]

theorem canonicalFields_eq_map (fields : Fields) :
    canonicalFields fields = fields.map fun field => (field.1, field.2.canonical) := by
  induction fields with
  | nil => rfl
  | cons first rest ih => rw [canonicalFields, ih, List.map_cons]

theorem canonicalFields_sortFields (fields : Fields) :
    canonicalFields (sortFields fields) = sortFields (canonicalFields fields) := by
  rw [canonicalFields_eq_map, canonicalFields_eq_map, map_sortFields]

mutual
theorem canonical_canonical (json : Json) : json.canonical.canonical = json.canonical := by
  cases json with
  | array items => simp [canonical, canonicalItems_canonicalItems items]
  | object fields =>
    simp [canonical, canonicalFields_sortFields, canonicalFields_canonicalFields fields,
      sortFields_of_sorted (sorted_sortFields _)]
  | _ => rfl
termination_by structural json
theorem canonicalItems_canonicalItems (items : List Json) :
    canonicalItems (canonicalItems items) = canonicalItems items := by
  cases items with
  | nil => rfl
  | cons item rest =>
    simp [canonicalItems, canonical_canonical item, canonicalItems_canonicalItems rest]
termination_by structural items
theorem canonicalFields_canonicalFields (fields : List (String × Json)) :
    canonicalFields (canonicalFields fields) = canonicalFields fields := by
  cases fields with
  | nil => rfl
  | cons first rest =>
    obtain ⟨key, value⟩ := first
    simp [canonicalFields, canonical_canonical value, canonicalFields_canonicalFields rest]
termination_by structural fields
end

/-- A JSON value in canonical form. -/
@[ext]
structure Value where
  json : Json
  ordered : json.canonical = json

def toValue (json : Json) : Value :=
  ⟨json.canonical, json.canonical_canonical⟩

/-- The fields of a JSON object in canonical form. -/
@[ext]
structure Object where
  fields : Fields
  ordered : (Json.object fields).canonical = .object fields

namespace Object

def ofFields (fields : Fields) : Object :=
  ⟨sortFields (canonicalFields fields), canonical_canonical (.object fields)⟩

def empty : Object := ⟨[], rfl⟩

def json (object : Object) : Json :=
  .object object.fields

def size (object : Object) : Nat :=
  object.fields.length

end Object

namespace Value

theorem toValue_json (value : Value) : value.json.toValue = value :=
  Value.ext value.ordered

def null : Value := ⟨.null, rfl⟩

def string (text : String) : Value := ⟨.string text, rfl⟩

end Value

end WorkflowRules.Json
