import Patchbay.Text.Shown

/-!
# Quoted text in messages

Messages show a name between double quotes, so that an empty or unprintable name can be seen. A
quote and a backslash are escaped, the usual control characters have letters, and whatever is not
shown is written by its code point.
-/

namespace Patchbay.Text

/-- How one character is shown inside quotes. -/
def quotedChar (c : Char) : List Char :=
  if c = '"' then ['\\', '"']
  else if c = '\\' then ['\\', '\\']
  else if c = '\n' then ['\\', 'n']
  else if c = '\r' then ['\\', 'r']
  else if c = '\t' then ['\\', 't']
  else if c = '\x00' then ['\\', '0']
  else if isShown c then [c]
  else ['\\', 'u', '\x7b'] ++ Nat.toDigits 16 c.toNat ++ ['\x7d']

/-- The text between double quotes, with everything escaped that would not be seen. -/
def quoted (s : String) : String :=
  String.ofList ('"' :: s.toList.flatMap quotedChar ++ ['"'])

end Patchbay.Text
