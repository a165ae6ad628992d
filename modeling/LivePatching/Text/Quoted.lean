import LivePatching.Text.Category

/-!
# Quoted text

A text between quotes in which every character can be seen: quotes, backslashes and the usual
controls have escapes of one letter, other characters that are not shown as themselves have their
code point in braces.
-/

namespace LivePatching.Text

/-- A code point in lower-case hexadecimal between braces. -/
def codePoint (c : Char) : List Char :=
  ['\\', 'u', '\x7b'] ++ Nat.toDigits 16 c.toNat ++ ['\x7d']

/-- A character as a quoted text shows it. -/
def shown (c : Char) : List Char :=
  if c = '"' then ['\\', '"']
  else if c = '\\' then ['\\', '\\']
  else if c = '\n' then ['\\', 'n']
  else if c = '\r' then ['\\', 'r']
  else if c = '\t' then ['\\', 't']
  else if c = '\x00' then ['\\', '0']
  else if isHidden c || isExtending c then codePoint c
  else [c]

/-- A text in quotes, with what cannot be shown escaped. -/
def quoted (s : String) : String := String.ofList ('"' :: s.toList.flatMap shown ++ ['"'])

end LivePatching.Text
