import VoidScript.Text.Class

/-!
Blank characters, by which lines and header values are trimmed and directives are spaced: the
white space of all scripts, line breaks included.
-/

namespace VoidScript.Text

def blankRanges : Class :=
  [(0x0009, 0x000D), (0x0020, 0x0020), (0x0085, 0x0085), (0x00A0, 0x00A0), (0x1680, 0x1680),
   (0x2000, 0x200A), (0x2028, 0x2029), (0x202F, 0x202F), (0x205F, 0x205F), (0x3000, 0x3000)]

def isBlank (c : Char) : Bool := blankRanges.holds c

def trim (s : Text) : Text := strip isBlank s

/-- What follows the leading blanks. -/
def skipBlanks (s : Text) : Text := s.dropWhile isBlank

end VoidScript.Text
