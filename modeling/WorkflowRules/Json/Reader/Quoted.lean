import WorkflowRules.Json.Reader.Basic
import WorkflowRules.Text.Hexadecimal

/-! Reading strings. A character stands for itself or is escaped, by a letter or by its
UTF-16 units in hexadecimal. -/
namespace WorkflowRules.Json.Reader

variable {ε α : Type} [CoversFaults ε]

/-- The sixteen-bit unit of four hexadecimal digits. -/
def hexUnit? (a b c d : Char) : Option Nat := do
  let high := (← Text.hexValue? a) * 16 + (← Text.hexValue? b)
  let low := (← Text.hexValue? c) * 16 + (← Text.hexValue? d)
  return high * 256 + low

/-- Four bytes that are no hexadecimal digits, or less than four. -/
def badUnit (s : List Char) : Except (Stop ε) α :=
  if byteLength s < 4 then stopAt .endInString []
  else .error ⟨CoversFaults.ofFault .badEscape, s, 4⟩

def simpleEscape? (c : Char) : Option Char :=
  match c with
  | '"' => some '"'
  | '\\' => some '\\'
  | '/' => some '/'
  | 'b' => some '\x08'
  | 'f' => some '\x0c'
  | 'n' => some '\n'
  | 'r' => some '\r'
  | 't' => some '\t'
  | _ => none

def isLeadingSurrogate (unit : Nat) : Bool :=
  0xD800 ≤ unit && unit ≤ 0xDBFF

def isTrailingSurrogate (unit : Nat) : Bool :=
  0xDC00 ≤ unit && unit ≤ 0xDFFF

def surrogatePair (leading trailing : Nat) : Char :=
  Char.ofNat ((leading - 0xD800) * 0x400 + (trailing - 0xDC00) + 0x10000)

/-- The unit of the next four digits. -/
def hexUnit : Reader ε Nat := fun s =>
  match s with
  | a :: b :: c :: d :: rest =>
    match hexUnit? a b c d with
    | some unit => .ok (unit, rest)
    | none => badUnit s
  | _ => badUnit s

/-- The character that a leading surrogate begins; a trailing one must follow it. -/
def pairedWith (leading : Nat) : Reader ε Char
  | [] | ['\\'] => stopAt .endInString []
  | '\\' :: 'u' :: s => do
    let (trailing, rest) ← hexUnit s
    if isTrailingSurrogate trailing then .ok (surrogatePair leading trailing, rest)
    else stopBefore .loneSurrogate rest
  | '\\' :: rest => stopAt .unpairedSurrogate rest
  | rest => stopAt .unpairedSurrogate rest

/-- A character given by its units, after the letter. -/
def unitEscape : Reader ε Char := fun s => do
  let (unit, rest) ← hexUnit s
  if isTrailingSurrogate unit then stopBefore .loneSurrogate rest
  else if isLeadingSurrogate unit then pairedWith unit rest
  else .ok (Char.ofNat unit, rest)

/-- An escaped character, after the backslash. -/
def escape : Reader ε Char
  | [] => stopAt .endInString []
  | c :: rest =>
    if c = 'u' then unitEscape rest
    else
      match simpleEscape? c with
      | some c => .ok (c, rest)
      | none => stopAt .badEscape (c :: rest)

/-- One character of a string. -/
def character : Reader ε Char
  | [] => stopAt .endInString []
  | c :: rest =>
    if c = '\\' then escape rest
    else if c.toNat < 32 then stopAt .controlCharacter (c :: rest)
    else .ok (c, rest)

/-- The characters up to the closing quote, of which there are at most as many as
`bound` has. -/
def quotedWithin (bound s : List Char) : Except (Stop ε) (List Char × List Char) :=
  match s with
  | '"' :: rest => .ok ([], rest)
  | s => do
    let (c, rest) ← character s
    match bound with
    | [] => stopAt .endInString rest
    | _ :: bound =>
      let (cs, rest) ← quotedWithin bound rest
      .ok (c :: cs, rest)

/-- The characters of a string whose opening quote has been read. -/
def quoted : Reader ε (List Char) := fun s =>
  quotedWithin s s

def string : Reader ε String := fun s => do
  let (cs, rest) ← quoted s
  .ok (String.ofList cs, rest)

end WorkflowRules.Json.Reader
