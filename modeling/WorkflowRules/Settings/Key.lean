import WorkflowRules.Text.Hexadecimal

/-! Keys of settings as TOML writes them: bare, or in double or single quotes. -/
namespace WorkflowRules.Settings

def isSpace (c : Char) : Bool :=
  c = ' ' || c = '\t'

def skipSpaces (s : List Char) : List Char :=
  s.dropWhile isSpace

/-- Control characters other than tab stand nowhere in a line. -/
def isPlain (c : Char) : Bool :=
  c = '\t' || (32 ≤ c.toNat && c.toNat ≠ 127)

def isBareKey (c : Char) : Bool :=
  c.isAlphanum || c = '_' || c = '-'

/-- The character of a code point written in hexadecimal. -/
def codePoint? (digits : List Char) : Option Char := do
  let code ← digits.foldlM (fun code c => do return code * 16 + (← Text.hexValue? c)) 0
  if h : code.isValidChar then some (Char.ofNatAux code h) else none

def simpleEscape? : Char → Option Char
  | 'b' => some '\x08'
  | 't' => some '\t'
  | 'n' => some '\n'
  | 'f' => some '\x0c'
  | 'r' => some '\r'
  | '"' => some '"'
  | '\\' => some '\\'
  | _ => none

/-- A key in double quotes, the first of which has been read. -/
def basicKey? : List Char → Option (List Char × List Char)
  | [] => none
  | '"' :: rest => some ([], rest)
  | '\\' :: 'u' :: a :: b :: c :: d :: rest => do
    let char ← codePoint? [a, b, c, d]
    let (key, rest) ← basicKey? rest
    some (char :: key, rest)
  | '\\' :: 'U' :: a :: b :: c :: d :: e :: f :: g :: h :: rest => do
    let char ← codePoint? [a, b, c, d, e, f, g, h]
    let (key, rest) ← basicKey? rest
    some (char :: key, rest)
  | '\\' :: c :: rest => do
    let char ← simpleEscape? c
    let (key, rest) ← basicKey? rest
    some (char :: key, rest)
  | c :: rest =>
    if isPlain c then do
      let (key, rest) ← basicKey? rest
      some (c :: key, rest)
    else none

def apostrophe : Char := '\x27'

/-- A key in single quotes, the first of which has been read. -/
def literalKey? (s : List Char) : Option (List Char × List Char) :=
  let key := s.takeWhile fun c => c ≠ apostrophe && isPlain c
  match s.drop key.length with
  | [] => none
  | c :: rest => if c = apostrophe then some (key, rest) else none

def key? (s : List Char) : Option (List Char × List Char) :=
  match s with
  | [] => none
  | c :: rest =>
    if c = '"' then basicKey? rest
    else if c = apostrophe then literalKey? rest
    else
      let key := s.takeWhile isBareKey
      if key.isEmpty then none else some (key, s.drop key.length)

end WorkflowRules.Settings
