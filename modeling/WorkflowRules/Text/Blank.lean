import WorkflowRules.Text.ClassTable

/-! Blank characters are those with the `White_Space` property, so a no-break space is
blank and a zero-width space is not. -/
namespace WorkflowRules.Text

def isBlank (c : Char) : Bool :=
  blankBoundaries.cover c.toNat

def trimChars (cs : List Char) : List Char :=
  ((cs.dropWhile isBlank).reverse.dropWhile isBlank).reverse

def trim (s : String) : String :=
  String.ofList (trimChars s.toList)

/-- Whether trimming leaves nothing. -/
def onlyBlank (s : String) : Bool :=
  (trimChars s.toList).isEmpty

theorem trim_eq_empty_iff (s : String) : trim s = "" ↔ onlyBlank s = true := by
  rw [trim, onlyBlank, List.isEmpty_iff, ← String.toList_inj, String.toList_ofList]
  rfl

/-- Trimming takes no character away that is not blank. -/
theorem all_trimChars (cs : List Char) : (trimChars cs).all isBlank = cs.all isBlank := by
  have kept := List.any_dropWhile (p := isBlank) (l := (cs.dropWhile isBlank).reverse)
  have keptInFront := List.any_dropWhile (p := isBlank) (l := cs)
  simp_all [trimChars, List.all_eq_not_any_not]

theorem isEmpty_trimChars (cs : List Char) : (trimChars cs).isEmpty = cs.all isBlank := by
  rw [← all_trimChars]
  cases left : (cs.dropWhile isBlank).reverse.dropWhile isBlank with
  | nil => simp [trimChars, left]
  | cons c rest =>
    have notBlank : isBlank c = false := by
      have head := List.head?_dropWhile_not isBlank (cs.dropWhile isBlank).reverse
      simpa [left] using head
    simp [trimChars, left, notBlank]

theorem onlyBlank_eq_all (s : String) : onlyBlank s = s.toList.all isBlank :=
  isEmpty_trimChars s.toList

theorem onlyBlank_trim (s : String) : onlyBlank (trim s) = onlyBlank s := by
  rw [onlyBlank_eq_all, onlyBlank_eq_all, trim, String.toList_ofList, all_trimChars]

end WorkflowRules.Text
