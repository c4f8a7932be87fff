import WorkflowRules.Json.Printer
import WorkflowRules.Json.Reader.Value
import WorkflowRules.Proofs.Json.Number
import WorkflowRules.Proofs.Json.Quoted

/-!
Walking what was printed one element a line. Reading is followed together with the condition on
which it succeeds, which is that the text is not too deep: a walk succeeds if each of its steps
does, and else stops with the first step that is stopped.
-/
namespace WorkflowRules.Json.Reader

variable {ε α β σ : Type} [CoversFaults ε] {rest : List Char} {level : Nat}

/-- Reading gives a value if `fits`, and else stops because the text is too deep. -/
structure ReadsIf (fits : Prop) (result : Except (Stop ε) (α × List Char)) (value : α)
    (rest : List Char) : Prop where
  read : fits → result = .ok (value, rest)
  stop : ¬fits → ∃ s beyond, result = .error ⟨CoversFaults.ofFault .tooDeep, s, beyond⟩

namespace ReadsIf

variable {fits first second : Prop} {result : Except (Stop ε) (α × List Char)} {value : α}

theorem congr (same : first ↔ second) (reads : ReadsIf first result value rest) :
    ReadsIf second result value rest :=
  ⟨fun fits => reads.read (same.2 fits), fun deep => reads.stop fun fits => deep (same.1 fits)⟩

theorem bind {next : α × List Char → Except (Stop ε) (β × List Char)} {s : List Char}
    {final : β} (here : ReadsIf first result value s)
    (later : ReadsIf second (next (value, s)) final rest) :
    ReadsIf (first ∧ second) (result >>= next) final rest := by
  constructor
  · rintro ⟨one, other⟩
    rw [here.read one]
    exact later.read other
  · intro deep
    by_cases one : first
    · rw [here.read one]
      exact later.stop fun other => deep ⟨one, other⟩
    · obtain ⟨s, beyond, stopped⟩ := here.stop one
      exact ⟨s, beyond, by rw [stopped]; rfl⟩

/-- What is done with a value after it was read does not stop any more. -/
theorem finish {final : β} (here : ReadsIf fits result value rest)
    {next : α × List Char → Except (Stop ε) (β × List Char)}
    (ends : next (value, rest) = .ok (final, rest)) :
    ReadsIf fits (result >>= next) final rest :=
  (here.bind ⟨fun _ => ends, fun no => absurd trivial no⟩).congr (and_iff_left trivial)

end ReadsIf

/-! ### Lines -/

theorem skipSpaces_lineStart (level : Nat) (s : List Char) :
    skipSpaces (lineStart level ++ s) = skipSpaces s := by
  refine List.dropWhile_append_of_pos fun c mem => ?_
  rcases List.mem_cons.1 mem with rfl | filled
  · rfl
  · rw [List.eq_of_mem_replicate filled]
    rfl

theorem skipSpaces_of_ink {c : Char} {s : List Char} (ink : isSpace c = false) :
    skipSpaces (c :: s) = c :: s := by
  simp [skipSpaces, ink]

theorem endsNumber_lineStart (s : List Char) : EndsNumber (lineStart level ++ s) := by
  rintro c ⟨⟩
  rfl

theorem endsNumber_comma (s : List Char) : EndsNumber (',' :: s) := by
  rintro c ⟨⟩
  rfl

/-- Lines at a level, with commas in between. -/
def lines (level : Nat) : List (List Char) → List Char
  | [] => []
  | line :: rest =>
    lineStart level ++ line ++ (if rest.isEmpty then [] else ',' :: lines level rest)

/-- Lines that follow upon another one. -/
def laterLines (level : Nat) (all : List (List Char)) : List Char :=
  if all.isEmpty then [] else ',' :: lines level all

theorem lines_cons (line : List Char) (rest : List (List Char)) :
    lines level (line :: rest) = lineStart level ++ (line ++ laterLines level rest) := by
  rw [lines, List.append_assoc, laterLines]

theorem laterLines_cons (line : List Char) (rest : List (List Char)) :
    laterLines level (line :: rest) = ',' :: lineStart level ++ (line ++ laterLines level rest) :=
  congrArg (List.cons ',') (lines_cons line rest)

-- Behind a line comes a comma or the line of the closing bracket, and neither can be taken for a
-- part of a number.
theorem endsNumber_laterLines (level outer : Nat) (all : List (List Char)) (close : List Char) :
    EndsNumber (laterLines level all ++ (lineStart outer ++ close)) := by
  cases all with
  | nil => exact endsNumber_lineStart close
  | cons line rest => exact endsNumber_comma _

theorem prettyItems_eq_lines (items : List Json) :
    prettyItems level items = lines level (items.map (prettyChars level)) := by
  induction items with
  | nil => rfl
  | cons item rest ih =>
    rw [prettyItems, ih, List.map_cons, lines, List.isEmpty_map]

def fieldLine (level : Nat) (field : String × Json) : List Char :=
  stringChars field.1 ++ ':' :: ' ' :: prettyChars level field.2

theorem prettyFields_eq_lines (fields : Fields) :
    prettyFields level fields = lines level (fields.map (fieldLine level)) := by
  induction fields with
  | nil => rfl
  | cons first rest ih =>
    obtain ⟨key, value⟩ := first
    rw [prettyFields, ih, List.map_cons, lines, List.isEmpty_map, fieldLine]
    simp only [List.append_assoc, List.cons_append]

theorem length_le_lines (level : Nat) (all : List (List Char)) :
    all.length ≤ (lines level all).length := by
  induction all with
  | nil => exact Nat.le_refl 0
  | cons line rest ih =>
    cases rest with
    | nil => simp [lines, lineStart]
    | cons next rest =>
      simp only [lines, List.isEmpty_cons, Bool.false_eq_true, if_false, List.length_append,
        List.length_cons, lineStart] at ih ⊢
      omega

/-! ### Walks -/

/-- An element is printed on a line. What `next` leaves of the line is read by a step, which
changes the state as it should. -/
structure ReadsLine (next : Bool → List Char → Except (Stop ε) Next) (step : σ → Reader ε σ)
    (level : Nat) (line inner : List Char) (fits : Prop) (after : σ → σ) : Prop where
  first : ∀ s, next true (lineStart level ++ (line ++ s)) = .ok (.another (inner ++ s))
  later : ∀ s, next false (',' :: (lineStart level ++ (line ++ s))) = .ok (.another (inner ++ s))
  reads : ∀ state s, EndsNumber s → ReadsIf fits (step state (inner ++ s)) (after state) s

section Walk

variable {next : Bool → List Char → Except (Stop ε) Next} {step : σ → Reader ε σ}

theorem walkWithin_step {here later : Prop} {first : Bool} {b : Char}
    {bound s inner tail : List Char} {state after final : σ}
    (found : next first s = .ok (.another inner))
    (reads : ReadsIf here (step state inner) after tail)
    (walks : ReadsIf later (walkWithin next step bound false after tail) final rest) :
    ReadsIf (here ∧ later) (walkWithin next step (b :: bound) first state s) final rest := by
  rw [walkWithin, found]
  exact reads.bind walks

variable {line inner : α → List Char} {fits : α → Prop} {after : σ → α → σ} {outer : Nat}
  {close bound : List Char} {elements : List α}

theorem walkWithin_laterLines
    (each : ∀ element ∈ elements, ReadsLine next step level (line element) (inner element)
      (fits element) (after · element))
    (closes : next false (lineStart outer ++ close) = .ok (.closed rest))
    (long : elements.length ≤ bound.length) (state : σ) :
    ReadsIf (∀ element ∈ elements, fits element)
      (walkWithin next step bound false state
        (laterLines level (elements.map line) ++ (lineStart outer ++ close)))
      (elements.foldl after state) rest := by
  induction elements generalizing bound state with
  | nil =>
    refine ⟨fun _ => ?_, fun no => absurd (by simp) no⟩
    rw [List.map_nil, laterLines, walkWithin]
    simp only [List.isEmpty_nil, if_true, List.nil_append, closes]
    rfl
  | cons element others ih =>
    obtain ⟨here, there⟩ := List.forall_mem_cons.1 each
    cases bound with
    | nil => cases long
    | cons b bound =>
      have ends := endsNumber_laterLines level outer (others.map line) close
      have walks := ih there (Nat.le_of_succ_le_succ long) (after state element)
      rw [List.map_cons, laterLines_cons, List.forall_mem_cons]
      simp only [List.cons_append, List.append_assoc]
      exact walkWithin_step (here.later _) (here.reads state _ ends) walks

theorem walkWithin_lines (nonempty : elements ≠ [])
    (each : ∀ element ∈ elements, ReadsLine next step level (line element) (inner element)
      (fits element) (after · element))
    (closes : next false (lineStart outer ++ close) = .ok (.closed rest))
    (long : elements.length ≤ bound.length) (state : σ) :
    ReadsIf (∀ element ∈ elements, fits element)
      (walkWithin next step bound true state
        (lines level (elements.map line) ++ (lineStart outer ++ close)))
      (elements.foldl after state) rest := by
  cases elements with
  | nil => exact absurd rfl nonempty
  | cons element others =>
    obtain ⟨here, there⟩ := List.forall_mem_cons.1 each
    cases bound with
    | nil => cases long
    | cons b bound =>
      have ends := endsNumber_laterLines level outer (others.map line) close
      have walks := walkWithin_laterLines there closes (Nat.le_of_succ_le_succ long)
        (after state element)
      rw [List.map_cons, lines_cons, List.forall_mem_cons]
      simp only [List.append_assoc]
      exact walkWithin_step (here.first _) (here.reads state _ ends) walks

-- The text itself bounds the steps, since every line takes a character or more.
theorem walk_lines (nonempty : elements ≠ [])
    (each : ∀ element ∈ elements, ReadsLine next step level (line element) (inner element)
      (fits element) (after · element))
    (closes : next false (lineStart outer ++ close) = .ok (.closed rest)) (state : σ) :
    ReadsIf (∀ element ∈ elements, fits element)
      (walkWithin next step (lines level (elements.map line) ++ (lineStart outer ++ close)) true
        state (lines level (elements.map line) ++ (lineStart outer ++ close)))
      (elements.foldl after state) rest := by
  have long := length_le_lines level (elements.map line)
  rw [List.length_map] at long
  exact walkWithin_lines nonempty each closes
    (Nat.le_trans long (by rw [List.length_append]; exact Nat.le_add_right _ _)) state

end Walk

end WorkflowRules.Json.Reader
