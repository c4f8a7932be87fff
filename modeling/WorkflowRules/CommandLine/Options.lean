/-! Options and positional arguments of a command line. An option has a long name after
two hyphens or a letter after one; its value is attached or the next argument. -/
namespace WorkflowRules.CommandLine

structure OptionSpec where
  long : String
  short : Option Char
  takesValue : Bool
  repeatable : Bool

/-- The options with their values, and the other arguments. Flags have empty values. -/
structure Arguments where
  options : List (String × String)
  others : List String

namespace Arguments

def empty : Arguments := ⟨[], []⟩

def withOption (arguments : Arguments) (spec : OptionSpec) (value : String) : Arguments :=
  { arguments with options := arguments.options ++ [(spec.long, value)] }

def withOther (arguments : Arguments) (value : String) : Arguments :=
  { arguments with others := arguments.others ++ [value] }

def values (arguments : Arguments) (long : String) : List String :=
  (arguments.options.filter (·.1 == long)).map Prod.snd

def value? (arguments : Arguments) (long : String) : Option String :=
  (arguments.values long).head?

/-- No option that is given once is given twice. -/
def repeatsNone (specs : List OptionSpec) (arguments : Arguments) : Bool :=
  specs.all fun spec => spec.repeatable || (arguments.values spec.long).length ≤ 1

end Arguments

/-- A lone hyphen is a value. -/
def looksLikeOption : List Char → Bool
  | '-' :: _ :: _ => true
  | _ => false

/-- What a long option or a cluster of letters comes to: the options that it completes,
and the one, if any, whose value is the next argument. -/
structure Given where
  complete : List (OptionSpec × String)
  pending : Option OptionSpec

/-- A long option after its hyphens. -/
def longOption? (specs : List OptionSpec) (body : List Char) : Option Given := do
  let name := body.takeWhile (· ≠ '=')
  let spec ← specs.find? (·.long.toList = name)
  match body.drop name.length with
  | [] => some (if spec.takesValue then ⟨[], some spec⟩ else ⟨[(spec, "")], none⟩)
  | _ :: value => if spec.takesValue then some ⟨[(spec, String.ofList value)], none⟩ else none

/-- The letters after one hyphen; what follows the letter of an option with a value is
that value. -/
def shortOptions? (specs : List OptionSpec) : List Char → Option Given
  | [] => some ⟨[], none⟩
  | letter :: rest => do
    let spec ← specs.find? (·.short = some letter)
    if spec.takesValue then
      match rest with
      | [] => some ⟨[], some spec⟩
      | '=' :: value => some ⟨[(spec, String.ofList value)], none⟩
      | value => some ⟨[(spec, String.ofList value)], none⟩
    else
      let given ← shortOptions? specs rest
      some { given with complete := (spec, "") :: given.complete }

def optionGiven? (specs : List OptionSpec) : List Char → Option Given
  | '-' :: '-' :: body => longOption? specs body
  | '-' :: letters => shortOptions? specs letters
  | _ => none

/-- Sorts arguments into options and others; what is left comes along. The value of a
pending option is the next argument. After two hyphens alone none is an option. When
only `leading` options are wanted, sorting ends at the first other argument, and there
must be no hyphens alone before it. -/
def sortFrom (specs : List OptionSpec) (leading : Bool) (pending : Option OptionSpec)
    (sorted : Arguments) : List String → Option (Arguments × List String)
  | [] => if pending.isSome then none else some (sorted, [])
  | argument :: rest =>
    match pending with
    | some spec =>
      if looksLikeOption argument.toList then none
      else sortFrom specs leading none (sorted.withOption spec argument) rest
    | none =>
      if argument = "--" then
        if leading then none else some (rest.foldl Arguments.withOther sorted, [])
      else if looksLikeOption argument.toList then do
        let given ← optionGiven? specs argument.toList
        let sorted := given.complete.foldl (fun sorted (spec, value) =>
          sorted.withOption spec value) sorted
        sortFrom specs leading given.pending sorted rest
      else if leading then some (sorted, argument :: rest)
      else sortFrom specs leading none (sorted.withOther argument) rest

end WorkflowRules.CommandLine
