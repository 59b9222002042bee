import VoidScript.Text.Visible

/-!
Quoted text: between double quotes, with escapes for quotes, backslashes and every character that
would not show.
-/

namespace VoidScript.Text.Quoted

/-- The code point in lower-case hexadecimal between braces. -/
def codePoint (c : Char) : Text :=
  ['\\', 'u', '\x7b'] ++ Nat.toDigits 16 c.toNat ++ ['\x7d']

def escape (c : Char) : Text :=
  if c = '\x00' then ['\\', '0']
  else if c = '\t' then ['\\', 't']
  else if c = '\r' then ['\\', 'r']
  else if c = '\n' then ['\\', 'n']
  else if c = '\x22' then ['\\', '\x22']
  else if c = '\\' then ['\\', '\\']
  else if isVisible c then [c]
  else codePoint c

def encode (s : Text) : Text := ['\x22'] ++ s.flatMap escape ++ ['\x22']

end VoidScript.Text.Quoted
