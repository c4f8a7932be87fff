import WorkflowRules.Json.Reader.Value

/-! Passing over the value of a field that nobody asked for. The text must be JSON, but
nesting and the size of numbers are not limited and surrogates need no partner. -/
namespace WorkflowRules.Json.Reader

variable {ε : Type} [CoversFaults ε]

/-- Passes over an escaped character, after the backslash. -/
def skipEscape : List Char → Except (Stop ε) (List Char)
  | [] => stopAt .endInString []
  | c :: rest => do
    if c = 'u' then
      let (_, rest) ← hexUnit rest
      .ok rest
    else if (simpleEscape? c).isSome then .ok rest
    else stopAt .badEscape (c :: rest)

/-- Passes over the characters up to the closing quote, at most as many as `bound` has. -/
def skipQuotedWithin (bound s : List Char) : Except (Stop ε) (List Char) :=
  match s with
  | [] => stopAt .endInString []
  | c :: rest =>
    if c = '"' then .ok rest
    else do
      let rest ← if c = '\\' then skipEscape rest
        else if c.toNat < 32 then stopBefore .controlCharacter (c :: rest)
        else .ok rest
      match bound with
      | [] => stopAt .endInString rest
      | _ :: bound => skipQuotedWithin bound rest

/-- Passes over a string whose opening quote has been read. -/
def skipQuoted (s : List Char) : Except (Stop ε) (List Char) :=
  skipQuotedWithin s s

/-- Digits of which there must be one or more. -/
def skipDigits (s : List Char) : Except (Stop ε) (List Char) :=
  let (digits, rest) := digits s
  if digits.isEmpty then stopAt .badNumber rest else .ok rest

def skipExponent : List Char → Except (Stop ε) (List Char)
  | 'e' :: s | 'E' :: s =>
    match s with
    | '+' :: s | '-' :: s => skipDigits s
    | s => skipDigits s
  | s => .ok s

def skipFraction : List Char → Except (Stop ε) (List Char)
  | '.' :: s => do skipExponent (← skipDigits s)
  | s => skipExponent s

/-- Passes over a number less its sign. -/
def skipNumber : List Char → Except (Stop ε) (List Char)
  | '0' :: s => if s.head?.any Char.isDigit then stopAt .badNumber s else skipFraction s
  | s => do skipFraction (← skipDigits s)

/-- Unlike the items of a value that is read, a bracket after a comma counts as a
missing value. -/
def nextSkippedItem (first : Bool) (s : List Char) : Except (Stop ε) Next :=
  match skipSpaces s with
  | [] => stopAt .endInList []
  | ']' :: rest => .ok (.closed rest)
  | s =>
    if first then .ok (.another s)
    else
      match s with
      | ',' :: rest => .ok (.another rest)
      | s => stopAt .noListSeparator s

def openingQuote (s : List Char) : Except (Stop ε) Next :=
  match skipSpaces s with
  | [] => stopAt .endInObject []
  | '"' :: rest => .ok (.another rest)
  | s => stopAt .keyNotString s

/-- Unlike the fields of a value that is read, a brace after a comma counts as a
missing key. -/
def nextSkippedField (first : Bool) (s : List Char) : Except (Stop ε) Next :=
  match skipSpaces s with
  | [] => stopAt .endInObject []
  | '\x7d' :: rest => .ok (.closed rest)
  | s =>
    if first then openingQuote s
    else
      match s with
      | ',' :: rest => openingQuote rest
      | s => stopAt .noObjectSeparator s

/-- Passes over a value that nests at most as deep as `bound` has characters. -/
def skipWithin (bound : List Char) : Reader ε Unit := fun s =>
  match skipSpaces s with
  | [] => stopAt .endInValue []
  | c :: rest =>
    if c = 'n' then word ['u', 'l', 'l'] () rest
    else if c = 't' then word ['r', 'u', 'e'] () rest
    else if c = 'f' then word ['a', 'l', 's', 'e'] () rest
    else if c = '-' then (skipNumber rest).map ((), ·)
    else if c.isDigit then (skipNumber (c :: rest)).map ((), ·)
    else if c = '"' then (skipQuoted rest).map ((), ·)
    else if c = '[' || c = '\x7b' then
      match bound with
      | [] => stopAt .noValue (c :: rest)
      | _ :: bound =>
        if c = '[' then
          walkWithin nextSkippedItem (fun _ s => skipWithin bound s) rest true () rest
        else
          walkWithin nextSkippedField (fun _ s => do skipWithin bound (← colon (← skipQuoted s)))
            rest true () rest
    else stopAt .noValue (c :: rest)

/-- Passes over a value; each level takes a character or more. -/
def skip : Reader ε Unit := fun s =>
  skipWithin s s

end WorkflowRules.Json.Reader
