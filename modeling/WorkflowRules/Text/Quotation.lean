import WorkflowRules.Text.ClassTable
import WorkflowRules.Text.Hexadecimal

/-! How a message quotes a piece of text: in double quotes, with quotes, backslashes
and unprintable characters escaped. -/
namespace WorkflowRules.Text

def quoteChar (c : Char) : List Char :=
  if c = '\x00' then ['\\', '0']
  else if c = '\t' then ['\\', 't']
  else if c = '\r' then ['\\', 'r']
  else if c = '\n' then ['\\', 'n']
  else if c = '"' then ['\\', '"']
  else if c = '\\' then ['\\', '\\']
  else if unprintableBoundaries.cover c.toNat then
    ['\\', 'u', '\x7b'] ++ hexDigits c.toNat ++ ['\x7d']
  else [c]

def quotation (s : String) : String :=
  String.ofList (['"'] ++ s.toList.flatMap quoteChar ++ ['"'])

end WorkflowRules.Text
