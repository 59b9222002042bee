import VoidScript.Directive
import VoidScript.FileSystem
import VoidScript.Text.Quoted
import VoidScript.Toolchain.Outcome

/-!
What a build records while it runs. A record carries what it is about; its level, its wording and
the component that writes it follow from its kind.
-/

namespace VoidScript

namespace Log

inductive Level
  | error
  | warn
  | info
  | debug
  | trace
  deriving DecidableEq, Repr

namespace Level

def name : Level → Text
  | .error => "ERROR".toList
  | .warn => "WARN".toList
  | .info => "INFO".toList
  | .debug => "DEBUG".toList
  | .trace => "TRACE".toList

def all : List Level := [.error, .warn, .info, .debug, .trace]

/-- How much is shown when the level is the least that is shown. -/
def detail : Level → Nat
  | .error => 1
  | .warn => 2
  | .info => 3
  | .debug => 4
  | .trace => 5

end Level

/-- The level from which on records are shown, or none of them. -/
inductive Threshold
  | off
  | upTo (level : Level)
  deriving DecidableEq, Repr

namespace Threshold

def shows : Threshold → Level → Bool
  | .off, _ => false
  | .upTo most, level => level.detail ≤ most.detail

/-- From showing nothing, in the order in which more is shown. -/
def all : List Threshold := .off :: Level.all.map .upTo

def name : Threshold → Text
  | .off => "OFF".toList
  | .upTo level => level.name

/-- A decimal numeral counts the levels that are shown. -/
def ofNumeral? (s : Text) : Option Threshold :=
  let digits := (Text.after? ['+'] s).getD s
  if digits.isEmpty || !digits.all Char.isDigit then none
  else all[digits.foldl (fun n c => 10 * n + (c.toNat - '0'.toNat)) 0]?

/-- Reads `off` or the name of a level, in any case, or a numeral. -/
def ofText? (s : Text) : Option Threshold :=
  (ofNumeral? s).or (all.find? (·.name == s.map Char.toUpper))

end Threshold

inductive Component
  | classifier
  | generator
  | build
  | toolchain
  | commandLine
  deriving DecidableEq, Repr

/-- The name that stands in the records of a component. -/
def Component.name : Component → Text
  | .classifier => "voidscript_parser::classify".toList
  | .generator => "voidscript_compiler::codegen".toList
  | .build => "voidscript_compiler::driver".toList
  | .toolchain => "voidscript_compiler::toolchain".toList
  | .commandLine => "voidc".toList

end Log

inductive Event
  | compiling (input : Path)
  | unmatched (family : Family) (line : Text)
  | classified (plugin : Text) (lines : Nat)
  | withoutFragment (line : Nat)
  | generated (className : Text) (fragments : Nat)
  | wroteSource (file : Path) (size : Nat)
  | wroteDescriptor (file : Path)
  | skipped (step : Toolchain.Step) (outcome : Toolchain.Outcome)
  | started (step : Toolchain.Step) (program : Path) (args : List Text)
  | failed (step : Toolchain.Step) (outcome : Toolchain.Outcome)
  | sourceReady (file : Path)
  | packaged (archive : Path)
  | notPackaged (report : Toolchain.Report)
  deriving DecidableEq, Repr

namespace Event

open Log

def level : Event → Level
  | .unmatched .. | .withoutFragment _ | .generated .. => .debug
  | .skipped .. | .failed .. | .notPackaged _ => .warn
  | _ => .info

def component : Event → Component
  | .unmatched .. => .classifier
  | .withoutFragment _ | .generated .. => .generator
  | .compiling _ | .classified .. | .wroteSource .. | .wroteDescriptor _ => .build
  | .skipped .. | .started .. | .failed .. => .toolchain
  | .sourceReady _ | .packaged _ | .notPackaged _ => .commandLine

def message : Event → Text
  | .compiling _ => "compiling".toList
  | .unmatched .. => "directive did not match its pattern, dropping".toList
  | .classified .. => "classified source lines".toList
  | .withoutFragment _ => "no fragment emitted".toList
  | .generated .. => "generated plugin class".toList
  | .wroteSource .. => "wrote Java source".toList
  | .wroteDescriptor _ => "wrote plugin descriptor".toList
  | .skipped .. => "toolchain step skipped".toList
  | .started .. => "running toolchain step".toList
  | .failed .. => "toolchain step failed".toList
  | .sourceReady _ => "generated plugin source".toList
  | .packaged _ => "packaged plugin".toList
  | .notPackaged _ => "packaging did not complete cleanly".toList

def listText (items : List Text) : Text :=
  "[".toList ++ List.intercalate ", ".toList (items.map Text.Quoted.encode) ++ "]".toList

/-- What a record carries besides its message. -/
def details : Event → List (String × Text)
  | .compiling input => [("source", input)]
  | .unmatched family line => [("family", family.label), ("line", Text.Quoted.encode line)]
  | .classified plugin lines => [("plugin", plugin), ("lines", Text.decimal lines)]
  | .withoutFragment line => [("line", Text.decimal line)]
  | .generated className fragments =>
      [("class", className), ("fragments", Text.decimal fragments)]
  | .wroteSource file size => [("file", file), ("bytes", Text.decimal size)]
  | .wroteDescriptor file | .sourceReady file => [("file", file)]
  | .skipped step outcome | .failed step outcome =>
      [("step", step.name), ("outcome", outcome.text)]
  | .started step program args =>
      [("step", step.name), ("program", program), ("args", listText args)]
  | .packaged archive => [("jar", archive)]
  | .notPackaged report => [("compile", report.compile.text), ("archive", report.archive.text)]

/-- The names by which a filter may ask for what a record carries. -/
def fields (event : Event) : List Text :=
  ("message" :: event.details.map (·.1)).map String.toList

/-- The message and what comes with it. A path may break the line. -/
def text (event : Event) : Text :=
  event.message ++ event.details.flatMap fun (name, value) =>
    " ".toList ++ name.toList ++ "=".toList ++ value

end Event

end VoidScript
