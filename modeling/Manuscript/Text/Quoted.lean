import Manuscript.Text.Number
import Manuscript.Text.Shown

/-!
# Text in quotes, for inspection

Quotes, backslashes and characters that are not shown as they are become escapes: those with a
letter of their own that letter, and all others their code between braces.
-/

namespace Manuscript.Text

/-- A character inside quotes. -/
def quotedChar (c : Char) : List Char :=
  if c.toNat = 0 then ['\\', '0']
  else if c = '\t' then ['\\', 't']
  else if c = '\r' then ['\\', 'r']
  else if c = '\n' then ['\\', 'n']
  else if c = '"' then ['\\', '"']
  else if c = '\\' then ['\\', '\\']
  else if isShown c then [c]
  else '\\' :: 'u' :: '\x7b' :: (Nat.toDigits 16 c.toNat ++ ['\x7d'])

/-- A text in quotes. -/
def quoted (s : String) : String :=
  String.ofList ('"' :: (s.toList.flatMap quotedChar ++ ['"']))

end Manuscript.Text
