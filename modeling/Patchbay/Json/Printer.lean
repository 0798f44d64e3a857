import Patchbay.Json.Basic
import Patchbay.Text.Hex

/-!
# Writing JSON text

Compact text has no space at all. Indented text has each item and member on a line of its own, one
unit further in than the bracket around it, and a bare pair of brackets for what is empty. Both
write the members of an object in the order they stand in.
-/

namespace Patchbay.Json

/-! ### Numbers and strings -/

/-- The digits of a floating-point number: positional if the exponent of the first digit lies
between -5 and 15, else in scientific notation. -/
def floatText (x : Double) : List Char :=
  let d := x.shortest
  let digits :=
    if d.digits = 0 ∨ (-5 < d.pointPosition ∧ d.pointPosition ≤ 16) then d.positional
    else d.scientific
  if x.negative then '-' :: digits else digits

def Number.text : Number → List Char
  | .integer n => (toString n).toList
  | .float x => floatText x

/-- How a character is written in a string: quotes, backslashes and control characters are
escaped. -/
def escapedChar (c : Char) : List Char :=
  if c = '"' then ['\\', '"']
  else if c = '\\' then ['\\', '\\']
  else if c = '\x08' then ['\\', 'b']
  else if c = '\x0c' then ['\\', 'f']
  else if c = '\n' then ['\\', 'n']
  else if c = '\r' then ['\\', 'r']
  else if c = '\t' then ['\\', 't']
  else if c.toNat < 0x20 then
    ['\\', 'u', '0', '0', Text.hexDigit (c.toNat / 16), Text.hexDigit (c.toNat % 16)]
  else [c]

def stringText (s : String) : List Char := '"' :: s.toList.flatMap escapedChar ++ ['"']

/-- A value that is neither an array nor an object. -/
def leafText : Json → List Char
  | .null => ['n', 'u', 'l', 'l']
  | .bool true => ['t', 'r', 'u', 'e']
  | .bool false => ['f', 'a', 'l', 's', 'e']
  | .number n => n.text
  | .string s => stringText s
  | .array _ => ['[', ']']
  | .object _ => ['\x7b', '\x7d']

/-! ### Compact text -/

mutual

def compactText : Json → List Char
  | .array [] => ['[', ']']
  | .array (v :: vs) => '[' :: compactText v ++ compactItems vs
  | .object [] => ['\x7b', '\x7d']
  | .object ((k, v) :: ms) => '\x7b' :: stringText k ++ ':' :: compactText v ++ compactMembers ms
  | .null => leafText .null
  | .bool b => leafText (.bool b)
  | .number n => leafText (.number n)
  | .string s => leafText (.string s)

/-- The items after the first, and the bracket. -/
def compactItems : List Json → List Char
  | [] => [']']
  | v :: vs => ',' :: compactText v ++ compactItems vs

/-- The members after the first, and the bracket. -/
def compactMembers : List (String × Json) → List Char
  | [] => ['\x7d']
  | (k, v) :: ms => ',' :: stringText k ++ ':' :: compactText v ++ compactMembers ms

end

def compact (v : Json) : String := String.ofList (compactText v)

/-! ### Indented text -/

/-- The start of a line, so many units in. -/
def newline (unit : List Char) (depth : Nat) : List Char :=
  '\n' :: (List.replicate depth unit).flatten

mutual

/-- The text of a value whose brackets stand `depth` units in. -/
def indentedText (unit : List Char) (depth : Nat) : Json → List Char
  | .array [] => ['[', ']']
  | .array (v :: vs) =>
    '[' :: newline unit (depth + 1) ++ indentedText unit (depth + 1) v ++
      indentedItems unit depth vs
  | .object [] => ['\x7b', '\x7d']
  | .object ((k, v) :: ms) =>
    '\x7b' :: newline unit (depth + 1) ++ stringText k ++
      (':' :: ' ' :: indentedText unit (depth + 1) v) ++ indentedMembers unit depth ms
  | .null => leafText .null
  | .bool b => leafText (.bool b)
  | .number n => leafText (.number n)
  | .string s => leafText (.string s)

/-- The items after the first, and the bracket. -/
def indentedItems (unit : List Char) (depth : Nat) : List Json → List Char
  | [] => newline unit depth ++ [']']
  | v :: vs =>
    ',' :: newline unit (depth + 1) ++ indentedText unit (depth + 1) v ++
      indentedItems unit depth vs

/-- The members after the first, and the bracket. -/
def indentedMembers (unit : List Char) (depth : Nat) : List (String × Json) → List Char
  | [] => newline unit depth ++ ['\x7d']
  | (k, v) :: ms =>
    ',' :: newline unit (depth + 1) ++ stringText k ++
      (':' :: ' ' :: indentedText unit (depth + 1) v) ++ indentedMembers unit depth ms

end

/-- The text of a value with so many blanks for each level of nesting. -/
def indented (blanks : Nat) (v : Json) : String :=
  String.ofList (indentedText (List.replicate blanks ' ') 0 v)

end Patchbay.Json
