import VoidScript.Directive.Form

/-!
Classifying a line. The first test that a line passes decides what it is; a line that starts with
a keyword and lacks the form of that keyword is dropped.
-/

namespace VoidScript.Directive

def startsWith (keyword : String) (line : Text) : Bool := keyword.toList.isPrefixOf line

def ofLine (line : Text) : Directive :=
  if startsWith "func" line then (function? line).getD (.dropped .function)
  else if startsWith "loop" line then (loop? line).getD (.dropped .loop)
  else if startsWith "if" line then (branch? line).getD (.dropped .branch)
  else if startsWith "elif" line then (elseIf? line).getD (.dropped .elseIf)
  else if startsWith "else" line then .otherwise
  else if startsWith "def" line then (event? line).getD (.dropped .event)
  else if isCollectionLiteral line then (collection? line).getD (.dropped .collection)
  else if startsWith "print(" line then (broadcast? line).getD (.dropped .broadcast)
  else if line.isEmpty || startsWith "#" line then .comment line
  else .passthrough line

end VoidScript.Directive
