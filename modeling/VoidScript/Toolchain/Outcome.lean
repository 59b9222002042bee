import VoidScript.Text

/-!
How packaging went: one outcome for compiling the generated class and one for archiving it.
-/

namespace VoidScript.Toolchain

inductive Step
  | compile
  | archive
  deriving DecidableEq, Repr

def Step.name : Step → Text
  | .compile => "compile".toList
  | .archive => "archive".toList

inductive Outcome
  | succeeded
  /-- The tool ran and did not succeed. A tool killed by a signal has no exit code. -/
  | failed (code : Option Int)
  /-- The tool was not found or could not be started. -/
  | unavailable (reason : Text)
  deriving DecidableEq, Repr

namespace Outcome

def isSuccess : Outcome → Bool
  | .succeeded => true
  | _ => false

def text : Outcome → Text
  | .succeeded => "succeeded".toList
  | .failed (some code) => "failed with exit code ".toList ++ Text.signedDecimal code
  | .failed none => "was terminated by a signal".toList
  | .unavailable reason => "could not run: ".toList ++ reason

end Outcome

structure Report where
  compile : Outcome
  archive : Outcome
  deriving DecidableEq, Repr

namespace Report

def isSuccess (report : Report) : Bool := report.compile.isSuccess && report.archive.isSuccess

/-- The first step that did not succeed, with its outcome. -/
def failure? (report : Report) : Option (Step × Outcome) :=
  if !report.compile.isSuccess then some (.compile, report.compile)
  else if !report.archive.isSuccess then some (.archive, report.archive)
  else none

end Report

end VoidScript.Toolchain
