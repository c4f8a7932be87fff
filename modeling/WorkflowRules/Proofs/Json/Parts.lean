import WorkflowRules.Json.Value

/-!
The parts of JSON values: an induction over them, and fields by name, in objects as they are
written and in canonical form, where the field that was written last is the one that counts.
-/
namespace WorkflowRules.Json

/-- To prove a property of an array or an object it is enough to know it of every part. -/
@[induction_eliminator]
theorem induct {motive : Json → Prop} (null : motive .null)
    (bool : ∀ value, motive (.bool value)) (number : ∀ value, motive (.number value))
    (string : ∀ value, motive (.string value))
    (array : ∀ items, (∀ item ∈ items, motive item) → motive (.array items))
    (object : ∀ fields, (∀ field ∈ fields, motive field.2) → motive (.object fields))
    (json : Json) : motive json :=
  @Json.rec motive (fun items => ∀ item ∈ items, motive item)
    (fun fields => ∀ field ∈ fields, motive field.2) (fun field => motive field.2)
    null bool number string array object
    (fun _ mem => nomatch mem) (fun _ _ here rest => List.forall_mem_cons.2 ⟨here, rest⟩)
    (fun _ mem => nomatch mem) (fun _ _ here rest => List.forall_mem_cons.2 ⟨here, rest⟩)
    (fun _ _ value => value) json

theorem mem_of_lookup {name : String} {value : Json} {fields : Fields}
    (found : fields.lookup name = some value) : (name, value) ∈ fields := by
  obtain ⟨before, after, rfl, _⟩ := List.lookup_eq_some_iff.1 found
  simp

theorem lookup_cons (key name : String) (value : Json) (rest : Fields) :
    List.lookup name ((key, value) :: rest) =
      if name = key then some value else rest.lookup name := by
  by_cases same : name = key
  · subst same
    simp
  · have differs : (name == key) = false := by simpa using same
    simp [List.lookup_cons, differs, same]

-- A walk that stops at the first field of a name looks that name up.
theorem eq_lookup_of_walk {α : Type} {walk : Fields → Option α} {name : String} {found : Json → α}
    (nil : walk [] = none) (cons : ∀ key value rest, walk ((key, value) :: rest) =
      if key = name then some (found value) else walk rest) (fields : Fields) :
    walk fields = (fields.lookup name).map found := by
  induction fields with
  | nil => exact nil
  | cons first rest ih =>
    obtain ⟨key, value⟩ := first
    rw [cons, lookup_cons, ih]
    by_cases same : key = name
    · rw [if_pos same, if_pos same.symm, Option.map_some]
    · rw [if_neg same, if_neg (Ne.symm same)]

theorem lookup_insertField (key name : String) (value : Json) (fields : Fields) :
    (insertField key value fields).lookup name =
      if name = key then some value else fields.lookup name := by
  induction fields with
  | nil => simp [insertField, lookup_cons]
  | cons first rest ih =>
    obtain ⟨other, old⟩ := first
    unfold insertField
    split
    · next found =>
      subst found
      by_cases same : name = key <;> simp [lookup_cons, same]
    · next different =>
      split
      · exact lookup_cons ..
      · rw [lookup_cons, lookup_cons, ih]
        by_cases same : name = other
        · subst same
          simp [Ne.symm different]
        · simp [same]

theorem lookup_sortFields (name : String) (fields : Fields) :
    (sortFields fields).lookup name = fields.reverse.lookup name := by
  -- What is sorted already gives way to the fields that are still to come.
  suffices ∀ sorted : Fields,
      (fields.foldl (fun sorted field => insertField field.1 field.2 sorted) sorted).lookup name =
        (fields.reverse.lookup name).or (sorted.lookup name) by
    simpa [sortFields] using this []
  induction fields with
  | nil => simp
  | cons first rest ih =>
    intro sorted
    obtain ⟨key, value⟩ := first
    rw [List.foldl_cons, ih, lookup_insertField, List.reverse_cons, List.lookup_append,
      Option.or_assoc, lookup_cons]
    by_cases same : name = key <;> simp [same]

theorem canonicalItems_eq_map (items : List Json) : canonicalItems items = items.map canonical := by
  induction items with
  | nil => rfl
  | cons item rest ih => rw [canonicalItems, ih, List.map_cons]

theorem lookup_canonicalFields (name : String) (fields : Fields) :
    (canonicalFields fields).lookup name = (fields.lookup name).map canonical := by
  induction fields with
  | nil => rfl
  | cons first rest ih =>
    obtain ⟨key, value⟩ := first
    rw [canonicalFields, lookup_cons, lookup_cons, ih]
    split <;> rfl

theorem lookup_canonical (name : String) (fields : Fields) :
    (sortFields (canonicalFields fields)).lookup name =
      (fields.reverse.lookup name).map canonical := by
  rw [lookup_sortFields, canonicalFields_eq_map, ← List.map_reverse, ← canonicalFields_eq_map,
    lookup_canonicalFields]

/-! Whatever is part of a value in canonical form is in canonical form. -/

theorem canonical_of_mem {item : Json} {items : List Json}
    (ordered : (Json.array items).canonical = .array items) (mem : item ∈ items) :
    item.canonical = item := by
  have same : items.map canonical = items := by
    rw [← canonicalItems_eq_map]
    exact Json.array.inj ordered
  rw [← same] at mem
  obtain ⟨before, _, rfl⟩ := List.mem_map.1 mem
  exact canonical_canonical before

theorem canonical_of_lookup {name : String} {value : Json} {fields : Fields}
    (ordered : (Json.object fields).canonical = .object fields)
    (found : fields.lookup name = some value) : value.canonical = value := by
  have same : sortFields (canonicalFields fields) = fields := Json.object.inj ordered
  rw [← same, lookup_canonical] at found
  obtain ⟨before, _, rfl⟩ := Option.map_eq_some_iff.1 found
  exact canonical_canonical before

end WorkflowRules.Json
