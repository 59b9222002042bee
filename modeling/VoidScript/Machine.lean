import VoidScript.FileSystem

/-!
Programs on a machine: where they are looked for and how they are started. What a program does is
any function of its arguments, its working directory and the file system.
-/

namespace VoidScript

inductive Ending
  | exited (code : Int)
  | killed
  /-- The program did not start. -/
  | refused (fault : Fault)
  deriving DecidableEq, Repr

/-- What running a program leads to. -/
structure Reaction where
  ending : Ending
  output : Text
  files : FileSystem

structure Machine where
  /-- The directories in which a program is looked for by its name. -/
  searchPath : List Path
  program : Location → List Text → Location → FileSystem → Reaction

namespace Machine

/-- The location of a regular file that may be executed. -/
def executable (files : FileSystem) (path : Path) : Except Fault Location := do
  let location ← files.resolve path
  match files.lookup location with
  | some (.file file) => if file.executable then return location else .error .denied
  | _ => .error .denied

/-- A simple name is looked up in the search path, any other path from the current directory. What
is found is a path, and relative if its directory is so in the search path. -/
def find? (machine : Machine) (files : FileSystem) (name : Path) : Option Path :=
  let candidates :=
    if Path.isSimple name then machine.searchPath.map (Path.join · name)
    else [Path.join (Path.ofComponents true (files.current.map .name)) name]
  candidates.find? fun path => (executable files path).isOk

/-- The program at a path. One without a slash is looked up in the search path again. -/
def locate (machine : Machine) (files : FileSystem) (path : Path) : Except Fault Location :=
  executable files (if path.contains '/' then path else (machine.find? files path).getD path)

/-- Starts a program in a directory. A relative path to the program is followed from there and not
from the current directory. A program that does not start changes nothing. -/
def start (machine : Machine) (files : FileSystem) (program : Path) (args : List Text)
    (dir : Path) : Reaction :=
  if args.any (·.contains '\x00') || dir.contains '\x00' then
    ⟨.refused .nulInArgument, [], files⟩
  else
    match files.changeDirectory dir with
    | .error fault => ⟨.refused fault, [], files⟩
    | .ok inside =>
        match machine.locate inside program with
        | .error fault => ⟨.refused fault, [], files⟩
        | .ok location => machine.program location args inside.current files

end Machine

end VoidScript
