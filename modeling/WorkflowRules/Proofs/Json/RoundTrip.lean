import WorkflowRules.Proofs.Json.Lines
import WorkflowRules.Proofs.Json.Reread

/-!
A JSON value that was printed is read, if it does not nest too deep, and else its text is refused.
Nothing else is asked of it: its numbers and strings may be any, and an object keeps its fields in
their order, those with the same key included. Strings are read back as they were, and so are all
other parts but those numbers that are not.
-/
namespace WorkflowRules.Json

namespace Reader

variable {ε : Type} [CoversFaults ε] {rest : List Char} {level levels : Nat}

/-! ### The beginning of a value -/

def opensNumber (c : Char) : Bool :=
  c = '-' || c.isDigit

/-- The characters that values begin with. -/
def opensValue (c : Char) : Bool :=
  opensNumber c || c ∈ ['n', 't', 'f', '"', '[', '\x7b']

theorem ne_of_opensValue {c : Char} (other : Char) (opens : opensValue c = true)
    (closed : opensValue other = false) : c ≠ other := by
  rintro rfl
  cases opens.symm.trans closed

theorem isSpace_of_opensValue {c : Char} (opens : opensValue c = true) : isSpace c = false := by
  have space := ne_of_opensValue ' ' opens rfl
  have tab := ne_of_opensValue '\t' opens rfl
  have carriageReturn := ne_of_opensValue '\r' opens rfl
  have lineFeed := ne_of_opensValue '\n' opens rfl
  simp [isSpace, space, tab, carriageReturn, lineFeed]

/-- A value begins here. -/
def OpensValue (s : List Char) : Prop :=
  ∃ c others, s = c :: others ∧ opensValue c = true

theorem OpensValue.append {s : List Char} (opens : OpensValue s) (more : List Char) :
    OpensValue (s ++ more) := by
  obtain ⟨c, others, rfl, here⟩ := opens
  exact ⟨c, others ++ more, rfl, here⟩

theorem OpensValue.skipSpaces {s : List Char} (opens : OpensValue s) : skipSpaces s = s := by
  obtain ⟨c, others, rfl, here⟩ := opens
  exact skipSpaces_of_ink (isSpace_of_opensValue here)

-- A number is read only if its first character is one that numbers begin with.
theorem opensNumber_of_number {s : List Char} {result : Number × List Char}
    (reads : number (ε := ε) s = .ok result) :
    ∃ c others, s = c :: others ∧ opensNumber c = true := by
  cases s with
  | nil => cases reads
  | cons c others =>
    refine ⟨c, others, rfl, ?_⟩
    by_contra other
    obtain ⟨noSign, noDigit⟩ : c ≠ '-' ∧ c.isDigit = false := by simpa [opensNumber] using other
    have noZero : c ≠ '0' := by
      rintro rfl
      cases noDigit
    have stops : literal (ε := ε) (c :: others) = stopAt .badNumber (c :: others) := by
      rw [literal]
      · simp [wholePart, noZero, noDigit]
      · rintro _ ⟨⟩
        exact noSign rfl
    rw [number, stops] at reads
    cases reads

theorem opensValue_prettyChars (json : Json) : OpensValue (prettyChars level json) := by
  cases json with
  | number value =>
    have reads : number (ε := Fault) (value.chars ++ []) = .ok (value.reread, []) :=
      number_chars value nofun
    obtain ⟨c, others, same, opens⟩ := opensNumber_of_number reads
    exact ⟨c, others, by simpa [prettyChars] using same, by simp [opensValue, opens]⟩
  | bool value => cases value <;> exact ⟨_, _, rfl, by decide⟩
  | null | string => exact ⟨_, _, rfl, by decide⟩
  | array | object =>
    rw [prettyChars]
    split <;> exact ⟨_, _, rfl, by decide⟩

/-! ### Elements -/

theorem nextItem_first {s : List Char} (opens : OpensValue s) :
    nextItem (ε := ε) true (lineStart level ++ s) = .ok (.another s) := by
  have skipped := (skipSpaces_lineStart level s).trans opens.skipSpaces
  obtain ⟨c, others, rfl, here⟩ := opens
  have noBracket : c ≠ ']' := ne_of_opensValue ']' here rfl
  simp [nextItem, skipped, noBracket]

theorem nextItem_later {s : List Char} (opens : OpensValue s) :
    nextItem (ε := ε) false (',' :: (lineStart level ++ s)) = .ok (.another s) := by
  have skipped := (skipSpaces_lineStart level s).trans opens.skipSpaces
  obtain ⟨c, others, rfl, here⟩ := opens
  have noBracket : c ≠ ']' := ne_of_opensValue ']' here rfl
  simp [nextItem, skipSpaces_of_ink (c := ',') rfl, skipped, noBracket]

theorem nextItem_closed (level : Nat) (rest : List Char) (first : Bool) :
    nextItem (ε := ε) first (lineStart level ++ ']' :: rest) = .ok (.closed rest) := by
  have skipped := (skipSpaces_lineStart level (']' :: rest)).trans (skipSpaces_of_ink rfl)
  simp [nextItem, skipped]

theorem nextField_first {s : List Char} :
    nextField (ε := ε) true (lineStart level ++ '"' :: s) = .ok (.another s) := by
  have skipped := (skipSpaces_lineStart level ('"' :: s)).trans (skipSpaces_of_ink rfl)
  simp [nextField, skipped]

theorem nextField_later {s : List Char} :
    nextField (ε := ε) false (',' :: (lineStart level ++ '"' :: s)) = .ok (.another s) := by
  have skipped := (skipSpaces_lineStart level ('"' :: s)).trans (skipSpaces_of_ink rfl)
  simp [nextField, skipSpaces_of_ink (c := ',') rfl, skipped]

theorem nextField_closed (level : Nat) (rest : List Char) (first : Bool) :
    nextField (ε := ε) first (lineStart level ++ '\x7d' :: rest) = .ok (.closed rest) := by
  have skipped := (skipSpaces_lineStart level ('\x7d' :: rest)).trans (skipSpaces_of_ink rfl)
  simp [nextField, skipped]

/-! ### Values -/

/-- A step of a walk over the items of an array. -/
def collectItem (levels : Nat) (items : List Json) : Reader ε (List Json) := fun s => do
  let (item, rest) ← value levels s
  .ok (item :: items, rest)

/-- A step of a walk over the fields of an object, from in front of the key. -/
def collectField (levels : Nat) (fields : Fields) : Reader ε Fields := fun s => do
  let (key, rest) ← string s
  let (item, rest) ← value levels (← colon rest)
  .ok ((key, item) :: fields, rest)

theorem value_array (s : List Char) : value (ε := ε) (levels + 1) ('[' :: s) =
    (walkWithin nextItem (collectItem levels) s true [] s).bind fun (items, rest) =>
      .ok (.array items.reverse, rest) :=
  rfl

theorem value_object (s : List Char) : value (ε := ε) (levels + 1) ('\x7b' :: s) =
    (walkWithin nextField (collectField levels) s true [] s).bind fun (fields, rest) =>
      .ok (.object fields.reverse, rest) := by
  rfl

theorem value_of_number {s : List Char} {read : Number}
    (reads : number (ε := ε) s = .ok (read, rest)) :
    value (ε := ε) levels s = .ok (.number read, rest) := by
  obtain ⟨c, others, rfl, opens⟩ := opensNumber_of_number reads
  have value : opensValue c = true := by simp [opensValue, opens]
  have ink := skipSpaces_of_ink (s := others) (isSpace_of_opensValue value)
  have noLetter : c ≠ 'n' ∧ c ≠ 't' ∧ c ≠ 'f' := by
    refine ⟨?_, ?_, ?_⟩ <;>
    · rintro rfl
      cases opens
  have here : (c = '-' || c.isDigit) = true := opens
  unfold Reader.value
  simp only [ink, noLetter, here, reads, if_true, if_false]
  rfl

theorem value_space (s : List Char) : value (ε := ε) levels (' ' :: s) = value levels s := by
  have same : skipSpaces (' ' :: s) = skipSpaces s := rfl
  unfold value
  rw [same]

/-- A value is read from wherever it was printed, if it does not nest too deep. -/
def ReadsPrinted (ε : Type) [CoversFaults ε] (json : Json) : Prop :=
  ∀ levels level rest, EndsNumber rest →
    ReadsIf (ε := ε) (json.nesting ≤ levels) (value levels (prettyChars level json ++ rest))
      json.reread rest

theorem readsLine_item (levels level : Nat) {item : Json} (reads : ReadsPrinted ε item) :
    ReadsLine (ε := ε) nextItem (collectItem levels) level (prettyChars level item)
      (prettyChars level item) (item.nesting ≤ levels) (item.reread :: ·) where
  first s := nextItem_first ((opensValue_prettyChars item).append s)
  later s := nextItem_later ((opensValue_prettyChars item).append s)
  reads _ s ends := (reads levels level s ends).finish rfl

theorem readsLine_field (levels level : Nat) {field : String × Json}
    (reads : ReadsPrinted ε field.2) :
    ReadsLine (ε := ε) nextField (collectField levels) level (fieldLine level field)
      (field.1.toList.flatMap escapeChar ++ '"' :: ':' :: ' ' :: prettyChars level field.2)
      (field.2.nesting ≤ levels) ((field.1, field.2.reread) :: ·) where
  first s := by
    simp only [fieldLine, stringChars, List.cons_append, List.append_assoc, List.nil_append,
      nextField_first]
  later s := by
    simp only [fieldLine, stringChars, List.cons_append, List.append_assoc, List.nil_append,
      nextField_later]
  reads fields s ends := by
    have item : ReadsIf (field.2.nesting ≤ levels)
        (value levels (prettyChars level field.2 ++ s) >>= fun (item, rest) =>
          .ok ((field.1, item) :: fields, rest)) ((field.1, field.2.reread) :: fields) s :=
      (reads levels level s ends).finish rfl
    simp only [collectField, List.append_assoc, List.cons_append, string_escaped]
    change ReadsIf _ (value levels (' ' :: _) >>= _) _ _
    rw [value_space]
    exact item

theorem nestingItems_le_iff {items : List Json} :
    nestingItems items ≤ levels ↔ ∀ item ∈ items, item.nesting ≤ levels := by
  induction items with
  | nil => simp [nestingItems]
  | cons item rest ih => rw [nestingItems, Nat.max_le, ih, List.forall_mem_cons]

theorem nestingFields_le_iff {fields : Fields} :
    nestingFields fields ≤ levels ↔ ∀ field ∈ fields, field.2.nesting ≤ levels := by
  induction fields with
  | nil => simp [nestingFields]
  | cons first rest ih => rw [nestingFields, Nat.max_le, ih, List.forall_mem_cons]

theorem value_prettyChars_of_flat {json : Json} (flat : json.nesting = 0) (ends : EndsNumber rest) :
    value (ε := ε) levels (prettyChars level json ++ rest) = .ok (json.reread, rest) := by
  cases json with
  | null =>
    unfold value
    rfl
  | bool value =>
    cases value <;>
    · unfold Reader.value
      rfl
  | number value => exact value_of_number (number_chars value ends)
  | string value =>
    have reads := string_escaped (ε := ε) value rest
    unfold Reader.value
    simp only [prettyChars, stringChars, List.cons_append, List.append_assoc, List.nil_append]
    change (string (value.toList.flatMap escapeChar ++ '"' :: rest)).map _ = _
    rw [reads]
    rfl
  | array | object => cases flat

theorem readsIf_array {items : List Json} (each : ∀ item ∈ items, ReadsPrinted ε item) :
    ReadsIf (ε := ε) (∀ item ∈ items, item.nesting ≤ levels)
      (value (levels + 1) (prettyChars level (.array items) ++ rest)) (reread (.array items))
      rest := by
  by_cases empty : items = []
  · subst empty
    refine ⟨fun _ => ?_, fun deep => absurd (by simp) deep⟩
    change value (levels + 1) ('[' :: ']' :: rest) = _
    rw [value_array, walkWithin]
    rfl
  · have layout : prettyChars level (.array items) ++ rest =
        '[' :: (lines (level + 1) (items.map (prettyChars (level + 1))) ++
          (lineStart level ++ ']' :: rest)) := by
      rw [prettyChars, if_neg (by simpa using empty), prettyItems_eq_lines]
      simp only [List.cons_append, List.append_assoc, List.nil_append]
    have walks := walk_lines empty
      (fun item mem => readsLine_item levels (level + 1) (each item mem))
      (nextItem_closed level rest false) []
    rw [layout, value_array]
    exact walks.finish (by simp [reread, rereadItems_eq_map])

theorem readsIf_object {fields : Fields} (each : ∀ field ∈ fields, ReadsPrinted ε field.2) :
    ReadsIf (ε := ε) (∀ field ∈ fields, field.2.nesting ≤ levels)
      (value (levels + 1) (prettyChars level (.object fields) ++ rest)) (reread (.object fields))
      rest := by
  by_cases empty : fields = []
  · subst empty
    refine ⟨fun _ => ?_, fun deep => absurd (by simp) deep⟩
    change value (levels + 1) ('\x7b' :: '\x7d' :: rest) = _
    rw [value_object, walkWithin]
    rfl
  · have layout : prettyChars level (.object fields) ++ rest =
        '\x7b' :: (lines (level + 1) (fields.map (fieldLine (level + 1))) ++
          (lineStart level ++ '\x7d' :: rest)) := by
      rw [prettyChars, if_neg (by simpa using empty), prettyFields_eq_lines]
      simp only [List.cons_append, List.append_assoc, List.nil_append]
    have walks := walk_lines empty
      (fun field mem => readsLine_field levels (level + 1) (each field mem))
      (nextField_closed level rest false) []
    rw [layout, value_object]
    have collected : fields.foldl (fun done field => (field.1, field.2.reread) :: done) [] =
        (fields.map fun field => (field.1, field.2.reread)).reverse ++ [] :=
      List.foldl_flip_cons_eq_append
    exact walks.finish (by simp [collected, reread, rereadFields_eq_map])

theorem readsIf_no_levels {json : Json} (nested : json.nesting ≠ 0) :
    ReadsIf (ε := ε) (json.nesting ≤ 0) (value 0 (prettyChars level json ++ rest)) json.reread
      rest := by
  refine ⟨fun flat => absurd (Nat.le_zero.1 flat) nested, fun _ => ?_⟩
  cases json with
  | array | object =>
    rw [prettyChars]
    split <;> exact ⟨_, _, rfl⟩
  | null | bool | number | string => exact absurd rfl nested

-- A bracket takes a level, and with none left it stops the reader.
theorem readsPrinted (json : Json) : ReadsPrinted ε json := by
  induction json with
  | null | bool | number | string =>
    intro levels level rest ends
    exact ⟨fun _ => value_prettyChars_of_flat rfl ends, fun deep => absurd (Nat.zero_le _) deep⟩
  | array items each =>
    intro levels level rest ends
    cases levels with
    | zero => exact readsIf_no_levels (Nat.succ_ne_zero _)
    | succ levels =>
      rw [nesting, Nat.add_le_add_iff_right, nestingItems_le_iff]
      exact readsIf_array each
  | object fields each =>
    intro levels level rest ends
    cases levels with
    | zero => exact readsIf_no_levels (Nat.succ_ne_zero _)
    | succ levels =>
      rw [nesting, Nat.add_le_add_iff_right, nestingFields_le_iff]
      exact readsIf_object each

end Reader

/-! ### Texts -/

variable {json : Json} {trailing : String}

namespace Reader

/-- What is left of a text after its value. -/
def Blank (trailing : String) : Prop :=
  ∀ c ∈ trailing.toList, isSpace c = true

instance : DecidablePred Blank :=
  fun _ => decidable_of_iff _ List.all_eq_true

theorem blank_empty : Blank "" := by
  decide

theorem Blank.skipSpaces (blank : Blank trailing) : skipSpaces trailing.toList = [] :=
  List.dropWhile_eq_nil_iff.2 blank

theorem Blank.endsNumber (blank : Blank trailing) : EndsNumber trailing.toList := by
  intro c mem
  have space := blank c (List.mem_of_mem_head? mem)
  simp only [isSpace, Bool.or_eq_true, decide_eq_true_eq] at space
  rcases space with ((rfl | rfl) | rfl) | rfl <;> rfl

end Reader

/-- Blanks may follow the printed value. -/
theorem parse_pretty_append (blank : Reader.Blank trailing)
    (shallow : json.nesting ≤ Reader.levelLimit) :
    parse (json.pretty ++ trailing) = .ok json.reread.toValue := by
  have reads := (Reader.readsPrinted (ε := Fault) json Reader.levelLimit 0 trailing.toList
    blank.endsNumber).read shallow
  simp only [parse, Reader.whole, pretty, String.toList_append, String.toList_ofList, reads]
  simp only [bind, Except.bind, blank.skipSpaces]
  rfl

theorem parse_pretty_append_of_deep (blank : Reader.Blank trailing)
    (deep : Reader.levelLimit < json.nesting) :
    ∃ place, parse (json.pretty ++ trailing) = .error ⟨.tooDeep, place⟩ := by
  obtain ⟨s, beyond, stops⟩ := (Reader.readsPrinted (ε := Fault) json Reader.levelLimit 0
    trailing.toList blank.endsNumber).stop (Nat.not_le.2 deep)
  simp only [parse, Reader.whole, pretty, String.toList_append, String.toList_ofList, stops]
  exact ⟨_, rfl⟩

theorem parse_pretty (shallow : json.nesting ≤ Reader.levelLimit) :
    parse json.pretty = .ok json.reread.toValue := by
  simpa using parse_pretty_append Reader.blank_empty shallow

end WorkflowRules.Json
