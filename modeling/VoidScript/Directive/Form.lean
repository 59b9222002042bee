import VoidScript.Directive
import VoidScript.Text.Blank
import VoidScript.Text.Word

/-!
The forms of directives. A captured text is the shortest that lets the rest of the form follow,
and never holds a line feed. Text after a complete form is ignored, except after a collection
literal, which fills its line.
-/

namespace VoidScript.Directive

/-- The text after a literal beginning. -/
def expect? (literal : String) (s : Text) : Option Text := Text.after? literal.toList s

/-- The text after at least one blank. -/
def blanks? : Text → Option Text
  | [] => none
  | c :: rest => if Text.isBlank c then some (Text.skipBlanks rest) else none

/-- The text before the first `close`, if it holds no line feed. -/
def captured? (close : String) (s : Text) : Option Text :=
  match Text.cut? close.toList s with
  | some (capture, _) => if '\n' ∈ capture then none else some capture
  | none => none

/-- The shortest text without a line feed that a `close` follows after which `next?` succeeds,
with what `next?` found. -/
def capturedBefore? (close : Char) (next? : Text → Option α) : Text → Option (Text × α)
  | [] => none
  | c :: rest =>
      match (if c = close then next? rest else none) with
      | some found => some ([], found)
      | none =>
          if c = '\n' then none
          else (capturedBefore? close next? rest).map fun (capture, found) => (c :: capture, found)

/-- The form `func [params](name):`, with blanks before the brackets. -/
def function? (line : Text) : Option Directive := do
  let rest ← blanks? (← expect? "func" line)
  let (params, name) ← capturedBefore? ']'
    (fun rest => do captured? "):" (← expect? "(" (Text.skipBlanks rest))) (← expect? "[" rest)
  return .function params name

/-- The form `loop(label):`. -/
def loop? (line : Text) : Option Directive := do
  return .loop (← captured? "):" (← expect? "loop(" line))

/-- The form `if [left] = [right]:`, with blanks around the brackets. -/
def branch? (line : Text) : Option Directive := do
  let rest ← blanks? (← expect? "if" line)
  let (left, right) ← capturedBefore? ']'
    (fun rest => do
      let rest ← expect? "=" (Text.skipBlanks rest)
      captured? "]:" (← expect? "[" (Text.skipBlanks rest)))
    (← expect? "[" rest)
  return .branch left right

/-- The form `elif [condition]:`. -/
def elseIf? (line : Text) : Option Directive := do
  let rest ← blanks? (← expect? "elif" line)
  return .elseIf (← captured? "]:" (← expect? "[" rest))

/-- The form `def on_event(param):`, where the event is a run of word characters. -/
def event? (line : Text) : Option Directive := do
  let rest ← expect? "on_" (← blanks? (← expect? "def" line))
  let event := rest.takeWhile Text.isWord
  if event.isEmpty then none
  else return .event event (← captured? "):" (← expect? "(" (rest.dropWhile Text.isWord)))

/-- The form `print(message)`. -/
def broadcast? (line : Text) : Option Directive := do
  return .broadcast (← captured? ")" (← expect? "print(" line))

/-- The form `identifier = [body]`, with nothing after the last bracket. -/
def isCollectionLiteral (line : Text) : Bool :=
  let body? := do
    let rest ← expect? "=" (Text.skipBlanks (line.dropWhile Text.isWord))
    expect? "[" (Text.skipBlanks rest)
  match body? with
  | some body => line.head?.any Text.isWord && body.getLast? == some ']' && !body.contains '\n'
  | none => false

/-- The first kind whose keyword occurs anywhere in the line. -/
def collection? (line : Text) : Option Directive :=
  (Collection.all.find? fun kind => Text.occurs kind.keyword line).map .collection

end VoidScript.Directive
