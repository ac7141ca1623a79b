import SqlSession.Text.Hex
import SqlSession.Text.Printable

/-! # Quoted text

Text between double quotes, for diagnostics: quotes, backslashes and the common controls have short
escapes, and every other character that cannot be shown stands as its number.
-/

namespace SqlSession.Text

/-- One character of a quoted text. -/
def quotedChar (c : Char) : List Char :=
  if c = '"' then ['\\', '"']
  else if c = '\\' then ['\\', '\\']
  else if c = '\n' then ['\\', 'n']
  else if c = '\r' then ['\\', 'r']
  else if c = '\t' then ['\\', 't']
  else if c.toNat = 0 then ['\\', '0']
  else if isShown c then [c]
  else ['\\', 'u', '\x7b'] ++ hexNumber c.toNat ++ ['\x7d']

/-- A text in double quotes, its contents escaped. -/
def quoted (s : String) : String := String.ofList ('"' :: s.toList.flatMap quotedChar ++ ['"'])

end SqlSession.Text
