import WorkflowRules.Json.Reader.Quoted

/-! Walking arrays and objects step by step. What a step does with an item is up to the
reader, so that one with expectations of its own can share the walk. -/
namespace WorkflowRules.Json.Reader

variable {ε σ : Type} [CoversFaults ε]

/-- Whether an array or object goes on. -/
inductive Next where
  | closed (rest : List Char)
  | another (rest : List Char)

def nextItem (first : Bool) (s : List Char) : Except (Stop ε) Next :=
  match skipSpaces s with
  | [] => stopAt .endInList []
  | ']' :: rest => .ok (.closed rest)
  | s =>
    if first then .ok (.another s)
    else
      match s with
      | ',' :: rest =>
        match skipSpaces rest with
        | [] => stopAt .endInValue []
        | ']' :: rest => stopAt .trailingComma (']' :: rest)
        | rest => .ok (.another rest)
      | s => stopAt .noListSeparator s

/-- Stands after the opening quote of a key when there is another field. -/
def nextField (first : Bool) (s : List Char) : Except (Stop ε) Next :=
  match skipSpaces s with
  | [] => stopAt .endInObject []
  | '\x7d' :: rest => .ok (.closed rest)
  | s =>
    if first then
      match s with
      | '"' :: rest => .ok (.another rest)
      | s => stopAt .keyNotString s
    else
      match s with
      | ',' :: rest =>
        match skipSpaces rest with
        | [] => stopAt .endInValue []
        | '"' :: rest => .ok (.another rest)
        | '\x7d' :: rest => stopAt .trailingComma ('\x7d' :: rest)
        | rest => stopAt .keyNotString rest
      | s => stopAt .noObjectSeparator s

def colon (s : List Char) : Except (Stop ε) (List Char) :=
  match skipSpaces s with
  | [] => stopAt .endInObject []
  | ':' :: rest => .ok rest
  | s => stopAt .noColon s

/-- Takes a step for each item that `next` finds, and at most one more step than
`bound` has characters. -/
def walkWithin (next : Bool → List Char → Except (Stop ε) Next) (step : σ → Reader ε σ)
    (bound : List Char) (first : Bool) (state : σ) : Reader ε σ := fun s => do
  match ← next first s with
  | .closed rest => .ok (state, rest)
  | .another rest =>
    let (state, rest) ← step state rest
    match bound with
    | [] => stopAt .noValue rest
    | _ :: bound => walkWithin next step bound false state rest

/-- Walks the items of an array whose bracket has been read. Every step takes a
character or more, so the text bounds the steps. -/
def walkItems (step : σ → Reader ε σ) (state : σ) : Reader ε σ := fun s =>
  walkWithin nextItem step s true state s

/-- Walks the fields of an object whose brace has been read. A step begins behind the
key, in front of the colon. -/
def walkFields (step : σ → String → Reader ε σ) (state : σ) : Reader ε σ := fun s =>
  walkWithin nextField (fun state s => do
    let (key, rest) ← string s
    step state key rest) s true state s

end WorkflowRules.Json.Reader
