import WorkflowRules.Proofs.Json.RoundTrip
import WorkflowRules.Proofs.Steps

/-!
How deep the values nest that are read from a text: no deeper than the reader follows brackets, and
no deeper in canonical form, since that only leaves fields out and moves them.
-/
namespace WorkflowRules.Json

/-! ### Values that are read -/

namespace Reader

variable {ε σ : Type} [CoversFaults ε] {s rest : List Char} {levels : Nat}

/-- What every step of a walk keeps is so at its end. -/
theorem walkWithin_keeps {next : Bool → List Char → Except (Stop ε) Next} {step : σ → Reader ε σ}
    (Kept : σ → Prop) (keeps : ∀ state s after rest, Kept state →
      step state s = .ok (after, rest) → Kept after)
    {bound : List Char} {first : Bool} {state final : σ} (start : Kept state)
    (walks : walkWithin next step bound first state s = .ok (final, rest)) : Kept final := by
  induction bound generalizing first state s with
  | nil =>
    rw [walkWithin] at walks
    obtain ⟨found, _, goes⟩ := bind_eq_ok.1 walks
    cases found with
    | closed rest =>
      cases goes
      exact start
    | another s =>
      obtain ⟨_, _, ended⟩ := bind_eq_ok.1 goes
      cases ended
  | cons c bound ih =>
    rw [walkWithin] at walks
    obtain ⟨found, _, goes⟩ := bind_eq_ok.1 walks
    cases found with
    | closed rest =>
      cases goes
      exact start
    | another s =>
      obtain ⟨⟨after, left⟩, stepped, walks⟩ := bind_eq_ok.1 goes
      exact ih (keeps _ _ _ _ start stepped) walks

theorem eq_of_word {α : Type} {expected : List Char} {value result : α}
    (reads : word (ε := ε) expected value s = .ok (result, rest)) : result = value := by
  induction expected generalizing s with
  | nil =>
    cases reads
    rfl
  | cons e expected ih =>
    cases s with
    | nil => cases reads
    | cons c s =>
      rw [word] at reads
      split at reads
      · exact ih reads
      · cases reads

/-- Some text is read as this value. -/
def IsRead (ε : Type) [CoversFaults ε] (levels : Nat) (json : Json) : Prop :=
  ∃ s rest, value (ε := ε) levels s = .ok (json, rest)

theorem isRead_of_collectItem {bound : List Char} {items : List Json}
    (walks : walkWithin (ε := ε) nextItem (collectItem levels) bound true [] s =
      .ok (items, rest)) : ∀ item ∈ items, IsRead ε levels item := by
  refine walkWithin_keeps (fun items => ∀ item ∈ items, IsRead ε levels item) ?_
    (List.forall_mem_nil _) walks
  intro collected s after rest read step
  obtain ⟨⟨item, left⟩, here, same⟩ := bind_eq_ok.1 step
  cases same
  exact List.forall_mem_cons.2 ⟨⟨s, _, here⟩, read⟩

theorem isRead_of_collectField {bound : List Char} {fields : Fields}
    (walks : walkWithin (ε := ε) nextField (collectField levels) bound true [] s =
      .ok (fields, rest)) : ∀ field ∈ fields, IsRead ε levels field.2 := by
  refine walkWithin_keeps (fun fields => ∀ field ∈ fields, IsRead ε levels field.2) ?_
    (List.forall_mem_nil _) walks
  intro collected s after rest read step
  obtain ⟨_, _, behindKey⟩ := bind_eq_ok.1 step
  obtain ⟨behindColon, _, reads⟩ := bind_eq_ok.1 behindKey
  obtain ⟨⟨item, left⟩, here, same⟩ := bind_eq_ok.1 reads
  cases same
  exact List.forall_mem_cons.2 ⟨⟨behindColon, _, here⟩, read⟩

/-- A value that is read is flat, or its parts are read with one level less. -/
theorem value_cases {json : Json} (reads : value (ε := ε) levels s = .ok (json, rest)) :
    json.nesting = 0 ∨ ∃ below, levels = below + 1 ∧
      ((∃ items, json = .array items ∧ ∀ item ∈ items, IsRead ε below item) ∨
        ∃ fields, json = .object fields ∧ ∀ field ∈ fields, IsRead ε below field.2) := by
  unfold value at reads
  split at reads
  · cases reads
  · split at reads
    · exact .inl (eq_of_word reads ▸ rfl)
    split at reads
    · exact .inl (eq_of_word reads ▸ rfl)
    split at reads
    · exact .inl (eq_of_word reads ▸ rfl)
    split at reads
    · obtain ⟨_, _, same⟩ := map_eq_ok.1 reads
      cases same
      exact .inl rfl
    split at reads
    · obtain ⟨_, _, same⟩ := map_eq_ok.1 reads
      cases same
      exact .inl rfl
    split at reads
    · split at reads
      · cases reads
      · next below =>
        obtain ⟨⟨items, left⟩, walks, same⟩ := bind_eq_ok.1 reads
        cases same
        refine .inr ⟨below, rfl, .inl ⟨_, rfl, fun item mem => ?_⟩⟩
        exact isRead_of_collectItem walks item (List.mem_reverse.1 mem)
    split at reads
    · split at reads
      · cases reads
      · next below =>
        obtain ⟨⟨fields, left⟩, walks, same⟩ := bind_eq_ok.1 reads
        cases same
        refine .inr ⟨below, rfl, .inr ⟨_, rfl, fun field mem => ?_⟩⟩
        exact isRead_of_collectField walks field (List.mem_reverse.1 mem)
    · cases reads

theorem nesting_le_of_isRead {json : Json} (isRead : IsRead ε levels json) :
    json.nesting ≤ levels := by
  induction levels generalizing json with
  | zero =>
    obtain ⟨s, rest, reads⟩ := isRead
    rcases value_cases reads with flat | ⟨_, deeper, _⟩
    · exact Nat.le_of_eq flat
    · cases deeper
  | succ levels ih =>
    obtain ⟨s, rest, reads⟩ := isRead
    rcases value_cases reads with flat | ⟨_, ⟨⟩, ⟨items, rfl, parts⟩ | ⟨fields, rfl, parts⟩⟩
    · exact flat ▸ Nat.zero_le _
    · rw [nesting, Nat.add_le_add_iff_right, nestingItems_le_iff]
      exact fun item mem => ih (parts item mem)
    · rw [nesting, Nat.add_le_add_iff_right, nestingFields_le_iff]
      exact fun field mem => ih (parts field mem)

end Reader

/-! ### Fields -/

theorem nesting_le_of_mem {field : String × Json} {fields : Fields} (mem : field ∈ fields) :
    field.2.nesting ≤ nestingFields fields :=
  Reader.nestingFields_le_iff.1 (Nat.le_refl _) field mem

theorem nesting_lt_of_mem {field : String × Json} {fields : Fields} (mem : field ∈ fields) :
    field.2.nesting < (object fields).nesting :=
  Nat.lt_succ_of_le (nesting_le_of_mem mem)

theorem nesting_le_of_lookup {name : String} {value : Json} {fields : Fields}
    (found : fields.lookup name = some value) : value.nesting ≤ nestingFields fields :=
  nesting_le_of_mem (mem_of_lookup found)

/-! ### Canonical form -/

theorem mem_of_mem_sortFields {field : String × Json} {fields : Fields}
    (mem : field ∈ sortFields fields) : field ∈ fields := by
  suffices ∀ sorted : Fields,
      field ∈ fields.foldl (fun sorted field => insertField field.1 field.2 sorted) sorted →
        field ∈ fields ∨ field ∈ sorted by
    simpa using this [] mem
  clear mem
  induction fields with
  | nil => exact fun _ mem => .inr mem
  | cons first rest ih =>
    intro sorted mem
    rcases ih _ mem with later | here
    · exact .inl (List.mem_cons_of_mem _ later)
    · rcases mem_insertField here with rfl | before
      · exact .inl List.mem_cons_self
      · exact .inr before

theorem nesting_canonical_le (json : Json) : json.canonical.nesting ≤ json.nesting := by
  induction json with
  | array items ih =>
    rw [canonical, nesting, nesting, Nat.add_le_add_iff_right, canonicalItems_eq_map,
      Reader.nestingItems_le_iff]
    intro item mem
    obtain ⟨before, among, rfl⟩ := List.mem_map.1 mem
    exact Nat.le_trans (ih before among) (Reader.nestingItems_le_iff.1 (Nat.le_refl _) before among)
  | object fields ih =>
    rw [canonical, nesting, nesting, Nat.add_le_add_iff_right, canonicalFields_eq_map,
      Reader.nestingFields_le_iff]
    intro field mem
    obtain ⟨before, among, rfl⟩ := List.mem_map.1 (mem_of_mem_sortFields mem)
    exact Nat.le_trans (ih before among) (nesting_le_of_mem among)
  | null | bool | number | string => exact Nat.le_refl _

/-- No text stands for a value that its reader could not follow. -/
theorem nesting_le_of_parse {text : String} {value : Value} (parsed : parse text = .ok value) :
    value.json.nesting ≤ Reader.levelLimit := by
  obtain ⟨json, reads, rfl⟩ := map_eq_ok.1 parsed
  obtain ⟨⟨read, rest⟩, value, ends⟩ := bind_eq_ok.1 (mapError_eq_ok.1 reads)
  have shallow := Reader.nesting_le_of_isRead ⟨_, _, value⟩
  dsimp only at ends
  split at ends
  · cases ends
    exact Nat.le_trans (nesting_canonical_le json) shallow
  · cases ends

end WorkflowRules.Json
