import VoidScript.Directive.OfLine
import VoidScript.Metadata
import VoidScript.Source

/-!
Scripts: the metadata of a source text and one numbered directive for each of its lines. Headers
are read from the lines as they stand, directives from the lines without outer blanks.
-/

namespace VoidScript

/-- One classified line. Lines are numbered from one. -/
structure Line where
  number : Nat
  directive : Directive
  deriving DecidableEq, Repr

structure Script where
  metadata : Metadata
  lines : List Line
  deriving DecidableEq, Repr

namespace Script

def number (first : Nat) : List Directive → List Line
  | [] => []
  | directive :: rest => ⟨first, directive⟩ :: number (first + 1) rest

def parse (source : Text) : Script :=
  let lines := Source.lines source
  { metadata := Metadata.ofLines lines
    lines := number 1 (lines.map fun line => Directive.ofLine (Text.trim line)) }

def directives (script : Script) : List Directive := script.lines.map (·.directive)

/-- Every directive that was not dropped, in its written form, each on a line of its own. -/
def written (script : Script) : Text :=
  Text.unlines (script.directives.filterMap Directive.written?)

end Script

end VoidScript
