import Motherboard.Text.Combining
import Motherboard.Text.Ignorable
import Motherboard.Text.Unprintable

/-!
# Written forms of values

Reports write a value as a tree: words and numbers at the leaves, and tuples, records, lists and
sets above them. `Form.text` writes the tree on one line. A record that shows only some of its fields
ends in two dots. Texts are quoted, and `quoteChar` writes what cannot be seen in them by its code
point.
-/

namespace Motherboard.Text

/-- A value to be written. -/
inductive Form where
  /-- A word or a number. -/
  | word (text : String)
  /-- A name with values in round brackets. -/
  | tuple (name : String) (items : List Form)
  /-- A name with named values in braces; `more` when there are fields that are not shown. -/
  | record (name : String) (fields : List (String × Form)) (more : Bool)
  /-- Values in square brackets. -/
  | list (items : List Form)
  /-- Values in braces. -/
  | set (items : List Form)

/-- A character is seen in a line of text: it prints, no display leaves it out, and it does not
attach to the character before it. -/
def isVisible (c : Char) : Bool :=
  !CharSet.unprintable.contains c && !CharSet.ignorable.contains c && !CharSet.combining.contains c

/-- How a character stands in a quoted text: quotes and backslashes after a backslash, the usual
controls by their letters, and what cannot be seen by its code point. -/
def quoteChar (c : Char) : String :=
  if c = '"' then "\\\""
  else if c = '\\' then "\\\\"
  else if c = '\n' then "\\n"
  else if c = '\r' then "\\r"
  else if c = '\t' then "\\t"
  else if c.toNat = 0 then "\\0"
  else if isVisible c then String.singleton c
  else "\\u\x7b" ++ String.ofList (Nat.toDigits 16 c.toNat) ++ "\x7d"

/-- A text in double quotes. -/
def quote (text : String) : String :=
  "\"" ++ String.join (text.toList.map quoteChar) ++ "\""

/-- Texts one after another with commas between them. -/
def commas (texts : List String) : String :=
  ", ".intercalate texts

/-- A name and what stands in its braces, if anything does. -/
def braced (name : String) (inside : List String) : String :=
  if inside.isEmpty then name else name ++ " \x7b " ++ commas inside ++ " \x7d"

namespace Form

/-- A number. -/
def number (n : Nat) : Form := .word (toString n)

/-- A truth value. -/
def truth (b : Bool) : Form := .word (if b then "true" else "false")

/-- A value that may be missing. -/
def optional : Option Form → Form
  | none => .word "None"
  | some form => .tuple "Some" [form]

mutual

/-- A value on one line. -/
def text : Form → String
  | .word text => text
  | .tuple name items => name ++ "(" ++ commas (texts items) ++ ")"
  | .record name fields more => braced name (fieldTexts fields ++ if more then [".."] else [])
  | .list items => "[" ++ commas (texts items) ++ "]"
  | .set items => "\x7b" ++ commas (texts items) ++ "\x7d"

/-- Values, each on a line of its own. -/
def texts : List Form → List String
  | [] => []
  | form :: rest => form.text :: texts rest

/-- Named values, each on a line of its own. -/
def fieldTexts : List (String × Form) → List String
  | [] => []
  | (name, form) :: rest => (name ++ ": " ++ form.text) :: fieldTexts rest

end

end Form

end Motherboard.Text
