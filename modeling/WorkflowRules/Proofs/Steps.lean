import Mathlib.Data.List.Forall2

/-! What the success of a chain of steps says of its parts. -/
namespace WorkflowRules

variable {α β ε ε' : Type}

theorem bind_eq_ok {step : Except ε α} {next : α → Except ε β} {result : β} :
    (step >>= next) = .ok result ↔ ∃ value, step = .ok value ∧ next value = .ok result := by
  cases step with
  | ok value => simp [bind, Except.bind]
  | error cause => simp [bind, Except.bind]

theorem exists_bind_eq_ok {step : Except ε α} {next : α → Except ε β} :
    (∃ result, (step >>= next) = .ok result) ↔
      ∃ value, step = .ok value ∧ ∃ result, next value = .ok result := by
  simp only [bind_eq_ok]
  constructor
  · rintro ⟨result, value, first, rest⟩
    exact ⟨value, first, result, rest⟩
  · rintro ⟨value, first, result, rest⟩
    exact ⟨result, value, first, rest⟩

theorem exists_eq_ok_iff {step : Except ε α} {fits : Prop} {value : α}
    (tells : ∀ result, step = .ok result ↔ fits ∧ value = result) :
    (∃ result, step = .ok result) ↔ fits := by
  simp only [tells, exists_and_left, exists_eq', and_true]

theorem check_bind_eq_ok {check : Except ε Unit} {next : Except ε β} {result : β} :
    (check >>= fun _ => next) = .ok result ↔ check = .ok () ∧ next = .ok result := by
  rw [bind_eq_ok]
  constructor
  · rintro ⟨_, passed, rest⟩
    exact ⟨passed, rest⟩
  · rintro ⟨passed, rest⟩
    exact ⟨(), passed, rest⟩

theorem map_eq_ok {step : Except ε α} {change : α → β} {result : β} :
    step.map change = .ok result ↔ ∃ value, step = .ok value ∧ change value = result := by
  cases step <;> simp [Except.map]

theorem mapError_eq_ok {step : Except ε α} {word : ε → ε'} {result : α} :
    step.mapError word = .ok result ↔ step = .ok result := by
  cases step <;> simp [Except.mapError]

theorem mapM_eq_ok {step : α → Except ε β} {values : List α} {results : List β} :
    values.mapM step = .ok results ↔
      List.Forall₂ (fun value result => step value = .ok result) values results := by
  induction values generalizing results with
  | nil => cases results <;> simp [pure, Except.pure]
  | cons value rest ih =>
    rw [List.mapM_cons, bind_eq_ok]
    constructor
    · rintro ⟨result, first, others⟩
      obtain ⟨later, followed, same⟩ := bind_eq_ok.1 others
      cases same
      exact .cons first (ih.1 followed)
    · intro each
      cases each with
      | cons first later => exact ⟨_, first, bind_eq_ok.2 ⟨_, ih.2 later, rfl⟩⟩

theorem exists_mapM_eq_ok (step : α → Except ε β) {accepts : β → Prop} {values : List α}
    (each : ∀ value ∈ values, ∃ result, step value = .ok result ∧ accepts result) :
    ∃ results, values.mapM step = .ok results ∧ ∀ result ∈ results, accepts result := by
  induction values with
  | nil => exact ⟨[], rfl, by simp⟩
  | cons value rest ih =>
    obtain ⟨here, later⟩ := List.forall_mem_cons.1 each
    obtain ⟨result, first, accepted⟩ := here
    obtain ⟨results, followed, others⟩ := ih later
    refine ⟨result :: results, ?_, List.forall_mem_cons.2 ⟨accepted, others⟩⟩
    exact mapM_eq_ok.2 (.cons first (mapM_eq_ok.1 followed))

theorem exists_mapM_eq_ok_iff {step : α → Except ε β} {values : List α} :
    (∃ results, values.mapM step = .ok results) ↔
      ∀ value ∈ values, ∃ result, step value = .ok result := by
  induction values with
  | nil => simp [pure, Except.pure]
  | cons value rest ih =>
    rw [List.mapM_cons, exists_bind_eq_ok, List.forall_mem_cons, ← ih]
    simp only [exists_bind_eq_ok, pure, Except.pure, Except.ok.injEq, exists_eq', and_true,
      exists_and_right]

end WorkflowRules
