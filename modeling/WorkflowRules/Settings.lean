import WorkflowRules.Limits
import WorkflowRules.Settings.Integer
import WorkflowRules.Settings.Key

/-! Settings files: TOML documents that set limits. A limit is an integer, so a document
is read statement by statement and anything but a setting, a comment or an empty line
makes it unreadable. -/
namespace WorkflowRules

inductive SettingsError where
  | unreadable
  | zero (key explanation : String)
deriving DecidableEq

namespace Settings

/-- The settings seen so far. -/
abbrev Seen := List (String × UInt64)

def keys : List String := ["max_depth", "depth_tolerance", "suggestion_limit"]

/-- What may follow on a line: spaces and a comment. -/
def endsLine (s : List Char) : Bool :=
  match skipSpaces s with
  | [] => true
  | c :: rest => c = '#' && rest.all isPlain

/-- A line without its line feed. -/
def readLine (seen : Seen) (line : List Char) : Option Seen :=
  if endsLine line then some seen
  else do
    let (key, rest) ← key? (skipSpaces line)
    match skipSpaces rest with
    | '=' :: rest =>
      let rest := skipSpaces rest
      let written := rest.takeWhile fun c => isBareKey c || c = '+'
      let key := String.ofList key
      if keys.contains key && (seen.lookup key).isNone && endsLine (rest.drop written.length) then
        some ((key, (← natural? written).toUInt64) :: seen)
      else none
    | _ => none

/-- Lines end with a line feed, before which a carriage return does not count. -/
def dropReturn (line : List Char) : List Char :=
  if line.getLast? = some '\r' then line.dropLast else line

def readLines (seen : Seen) : List (List Char) → Option Seen
  | [] => some seen
  | [last] => readLine seen last
  | line :: rest => do readLines (← readLine seen (dropReturn line)) rest

/-- A byte order mark may come first. -/
def dropMark : List Char → List Char
  | '\ufeff' :: rest => rest
  | s => s

def limitsOf (seen : Seen) : Limits :=
  let field (key : String) (otherwise : UInt64) : UInt64 := (seen.lookup key).getD otherwise
  ⟨field "max_depth" Limits.standard.maxDepth,
    field "depth_tolerance" Limits.standard.depthTolerance,
    field "suggestion_limit" Limits.standard.suggestionLimit⟩

/-- Some level of groups and some suggestions must be allowed. -/
def check (limits : Limits) : Except SettingsError Limits :=
  if limits.maxDepth = 0 then
    .error (.zero "max_depth" "must allow at least one group level")
  else if limits.suggestionLimit = 0 then
    .error (.zero "suggestion_limit" "must be greater than zero")
  else .ok limits

def read (text : String) : Except SettingsError Limits :=
  match readLines [] ((dropMark text.toList).splitOn '\n') with
  | some seen => check (limitsOf seen)
  | none => .error .unreadable

end Settings

/-- The wording of an unreadable file is not fixed. -/
def SettingsError.message : SettingsError → String
  | .unreadable => "Failed to parse config TOML"
  | .zero key explanation => "Invalid config value for '" ++ key ++ "': " ++ explanation

end WorkflowRules
