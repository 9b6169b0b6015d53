import TypedBytecode.Text.ExtendingMark
import TypedBytecode.Text.Unprintable

/-!
Contract: text between quotes, on one line.

Owns: which characters are written as escapes, and how. A quoted text holds no line feed,
because every control character is written as an escape.
-/

namespace TypedBytecode.Text

def hexDigits (number : Nat) : List Char :=
  Nat.toDigits 16 number

/-- One character of a quoted text. Characters that cannot be seen, or that would change the
look of the character before them, are written by their code point. -/
def escape (c : Char) : List Char :=
  if c = '"' then ['\\', '"']
  else if c = '\\' then ['\\', '\\']
  else if c = '\n' then ['\\', 'n']
  else if c = '\r' then ['\\', 'r']
  else if c = '\t' then ['\\', 't']
  else if c = '\x00' then ['\\', '0']
  else if 0x20 ≤ c.toNat ∧ c.toNat < 0x7F then [c]
  else if ExtendingMark.contains c || Unprintable.contains c then
    ['\\', 'u', '\x7b'] ++ hexDigits c.toNat ++ ['\x7d']
  else [c]

def quoted (text : String) : String :=
  String.ofList ('"' :: text.toList.flatMap escape ++ ['"'])

end TypedBytecode.Text
