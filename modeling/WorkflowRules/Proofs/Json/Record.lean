import Mathlib.Data.List.Nodup
import WorkflowRules.Json.Record
import WorkflowRules.Proofs.Json.Parts
import WorkflowRules.Proofs.Steps

/-!
What a record finds: in an object the fields that go by its names, and in an array the items in
the places of its fields.
-/
namespace WorkflowRules.Json

variable {record : Record} {name : String}

theorem fromField_eq_ok {α : Type} {decoder : Decoder α} {fields : Fields} {value : α} :
    decoder.fromField fields name = .ok value ↔
      ∃ json, fields.lookup name = some json ∧ decoder.ofJson json = .ok value := by
  unfold Decoder.fromField
  cases fields.lookup name <;> simp

namespace Record

def Knows (record : Record) (name : String) : Prop :=
  ∃ field, record.fields.find? (·.name == name) = some field

-- Fields that were seen before come first, as a known key cannot be read twice.
theorem lookup_of_readFields (known : record.Knows name) {seen fields found : Fields}
    (reads : record.readFields seen fields = .ok found) :
    found.lookup name = (seen.lookup name).or (fields.lookup name) := by
  induction fields generalizing seen with
  | nil =>
    rw [readFields] at reads
    split at reads
    · cases reads
    · cases reads
      simp
  | cons first rest ih =>
    obtain ⟨key, json⟩ := first
    rw [readFields] at reads
    split at reads
    · next unknown =>
      have differs : name ≠ key := by
        rintro rfl
        obtain ⟨field, named⟩ := known
        cases named.symm.trans unknown
      rw [ih reads, lookup_cons, if_neg differs]
    · split at reads
      · cases reads
      · split at reads
        · rw [ih reads, List.lookup_append, Option.or_assoc, lookup_cons, lookup_cons]
          by_cases same : name = key <;> simp [same]
        · cases reads

theorem lookup_of_read (known : record.Knows name) {fields found : Fields}
    (reads : record.read (.object fields) = .ok found) :
    found.lookup name = fields.lookup name :=
  lookup_of_readFields known reads

theorem zip_of_readItems {length index : Nat} {fields : List Field} {items : List Json}
    {found : Fields} (reads : record.readItems length index fields items = .ok found) :
    items.length ≤ fields.length ∧ found = (fields.map Field.name).zip items := by
  induction items generalizing index fields found with
  | nil =>
    rw [readItems] at reads
    split at reads
    · cases reads
    · cases reads
      simp
  | cons item rest ih =>
    cases fields with
    | nil => cases reads
    | cons field others =>
      rw [readItems] at reads
      split at reads
      · obtain ⟨later, readRest, rfl⟩ := map_eq_ok.1 reads
        obtain ⟨fits, rfl⟩ := ih readRest
        exact ⟨Nat.succ_le_succ fits, rfl⟩
      · cases reads

end Record

/-! ### Objects without repeated keys -/

def Distinct (fields : Fields) : Prop :=
  (fields.map Prod.fst).Nodup

theorem Sorted.distinct {fields : Fields} (sorted : Sorted fields) : Distinct fields :=
  List.pairwise_map.2 (sorted.imp fun below => String.ne_of_lt below)

theorem distinct_of_canonical {fields : Fields}
    (ordered : (Json.object fields).canonical = .object fields) : Distinct fields := by
  have same : sortFields (canonicalFields fields) = fields := Json.object.inj ordered
  exact same ▸ (sorted_sortFields (canonicalFields fields)).distinct

theorem lookup_eq_none_of_not_mem {key : String} {fields : Fields}
    (absent : key ∉ fields.map Prod.fst) : fields.lookup key = none := by
  cases found : fields.lookup key with
  | none => rfl
  | some json => exact absurd (List.mem_map_of_mem (mem_of_lookup found)) absent

/-- A field finds what it asks for, behind the fields that have been seen. -/
def Field.Fits (seen fields : Fields) (field : Field) : Prop :=
  match fields.lookup field.name with
  | some json => field.check json = .ok ()
  | none => field.required = true → (seen.lookup field.name).isSome = true

namespace Record

theorem missing?_eq_none_iff {fields : List Field} {seen : Fields} :
    missing? fields seen = none ↔ ∀ field ∈ fields, field.Fits seen [] := by
  simp [missing?, Field.Fits]

theorem fits_cons_self {field : Field} {seen rest : Fields} {json : Json} :
    field.Fits seen ((field.name, json) :: rest) ↔ field.check json = .ok () := by
  simp [Field.Fits]

theorem fits_cons_of_ne {field : Field} {seen rest : Fields} {key : String} {json : Json}
    (differs : field.name ≠ key) :
    field.Fits seen ((key, json) :: rest) ↔ field.Fits seen rest := by
  rw [Field.Fits, Field.Fits, lookup_cons, if_neg differs]

theorem fits_of_seen {field : Field} {seen rest : Fields} {key : String} {json : Json}
    (differs : field.name ≠ key) :
    field.Fits (seen ++ [(key, json)]) rest ↔ field.Fits seen rest := by
  have same : (seen ++ [(key, json)]).lookup field.name = seen.lookup field.name := by
    rw [List.lookup_append, lookup_cons, if_neg differs]
    simp
  rw [Field.Fits, Field.Fits, same]

-- A known field moves to those that were seen. Its key does not come again, and no other field of
-- the record has its name.
theorem exists_readFields_iff (names : (record.fields.map Field.name).Nodup) {seen fields : Fields}
    (distinct : Distinct fields) (fresh : ∀ entry ∈ fields, seen.lookup entry.1 = none) :
    (∃ found, record.readFields seen fields = .ok found) ↔
      ∀ field ∈ record.fields, field.Fits seen fields := by
  induction fields generalizing seen with
  | nil =>
    rw [← missing?_eq_none_iff, readFields]
    cases missing? record.fields seen <;> simp
  | cons first rest ih =>
    obtain ⟨key, json⟩ := first
    obtain ⟨here, later⟩ := List.forall_mem_cons.1 fresh
    obtain ⟨unique, distinctRest⟩ := List.nodup_cons.1 distinct
    rw [readFields]
    cases known : record.fields.find? (·.name == key) with
    | none =>
      have unknown : ∀ field ∈ record.fields, field.name ≠ key := by
        simpa using known
      rw [ih distinctRest later]
      exact forall₂_congr fun field mem => (fits_cons_of_ne (unknown field mem)).symm
    | some field =>
      have mem : field ∈ record.fields := List.mem_of_find?_eq_some known
      obtain rfl : field.name = key := by simpa using List.find?_some known
      simp only [here, Option.isSome_none, Bool.false_eq_true, if_false]
      cases checked : field.check json with
      | error mismatch =>
        refine ⟨nofun, fun fits => ?_⟩
        cases checked.symm.trans (fits_cons_self.1 (fits field mem))
      | ok _ =>
        have absent : rest.lookup field.name = none :=
          lookup_eq_none_of_not_mem unique
        have freshRest : ∀ entry ∈ rest, (seen ++ [(field.name, json)]).lookup entry.1 = none := by
          intro entry inside
          have differs : entry.1 ≠ field.name := fun same =>
            unique (List.mem_map.2 ⟨entry, inside, same⟩)
          rw [List.lookup_append, later entry inside, lookup_cons, if_neg differs]
          rfl
        rw [ih distinctRest freshRest]
        refine forall₂_congr fun other inside => ?_
        by_cases same : other.name = field.name
        · obtain rfl := List.inj_on_of_nodup_map names inside mem same
          simp [Field.Fits, absent, checked]
        · rw [fits_of_seen same, fits_cons_of_ne same]

theorem exists_read_object_iff (names : (record.fields.map Field.name).Nodup) {fields : Fields}
    (distinct : Distinct fields) :
    (∃ found, record.read (.object fields) = .ok found) ↔
      ∀ field ∈ record.fields, field.Fits [] fields :=
  exists_readFields_iff names distinct fun _ _ => rfl

-- What is done with the fields looks only at those that the record knows, so it may as well be
-- done with the object itself; and if that can be done, nothing is amiss with the object.
theorem read_object_bind_eq_ok_iff {α : Type} (record : Record)
    (next : Fields → Except Mismatch α) {value : α}
    (names : (record.fields.map Field.name).Nodup) {fields : Fields} (distinct : Distinct fields)
    (near : ∀ found, (∀ name, record.Knows name → found.lookup name = fields.lookup name) →
      next found = next fields)
    (fits : next fields = .ok value → ∀ field ∈ record.fields, field.Fits [] fields) :
    (record.read (.object fields) >>= next) = .ok value ↔ next fields = .ok value := by
  constructor
  · intro succeeds
    obtain ⟨found, reads, done⟩ := bind_eq_ok.1 succeeds
    rwa [near found fun name known => lookup_of_read known reads] at done
  · intro done
    obtain ⟨found, reads⟩ := (exists_read_object_iff names distinct).2 (fits done)
    refine bind_eq_ok.2 ⟨found, reads, ?_⟩
    rwa [near found fun name known => lookup_of_read known reads]

end Record

/-! ### Fields of a decoder -/

variable {α : Type} {decoder : Decoder α} {fields found : Fields}

theorem fromField_congr (same : found.lookup name = fields.lookup name) :
    decoder.fromField found name = decoder.fromField fields name := by
  rw [Decoder.fromField, Decoder.fromField, same]

theorem fromFieldOr_congr {absent : α} (same : found.lookup name = fields.lookup name) :
    decoder.fromFieldOr found name absent = decoder.fromFieldOr fields name absent := by
  rw [Decoder.fromFieldOr, Decoder.fromFieldOr, same]

theorem fits_field_iff : (decoder.field name).Fits [] fields ↔
    ∃ value, decoder.fromField fields name = .ok value := by
  simp only [Field.Fits, Decoder.field, Decoder.fromField]
  cases fields.lookup name <;> simp [map_eq_ok]

theorem fits_optionalField_iff (absent : α) : (decoder.optionalField name).Fits [] fields ↔
    ∃ value, decoder.fromFieldOr fields name absent = .ok value := by
  simp only [Field.Fits, Decoder.optionalField, Decoder.fromFieldOr]
  cases fields.lookup name <;> simp [map_eq_ok]

end WorkflowRules.Json
