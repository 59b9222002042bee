import VoidScript.Text

/-!
Source text as lines. A line ends with a line feed, a carriage return or the two together, and a
terminator at the very end starts no further line.
-/

namespace VoidScript.Source

/-- Puts `c` in front of the first line. -/
def extend (c : Char) : List Text → List Text
  | [] => [[c]]
  | line :: rest => (c :: line) :: rest

def lines : Text → List Text
  | [] => []
  | '\r' :: '\n' :: rest => [] :: lines rest
  | c :: rest => if c = '\r' ∨ c = '\n' then [] :: lines rest else extend c (lines rest)

/-- The same text with a line feed as its only terminator. -/
def normalize : Text → Text
  | [] => []
  | '\r' :: '\n' :: rest => '\n' :: normalize rest
  | c :: rest => (if c = '\r' then '\n' else c) :: normalize rest

end VoidScript.Source
