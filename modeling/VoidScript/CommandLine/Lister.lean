import VoidScript.CommandLine.Compiler
import VoidScript.Listing

/-!
The command line that lists a script. It takes exactly one argument, the file to read, and has no
options.
-/

namespace VoidScript.CommandLine.Lister

def usage : Text :=
  Text.unlines
    ["Usage: voidscript-parser <file.void>".toList,
     [],
     "Classify every line of a VoidScript file and dump the result".toList]

def readFailure (file : Path) (fault : Fault) : Text :=
  "Error reading file '".toList ++ file ++ "': ".toList ++ fault.message ++ "\n".toList

def run (argv : List Text) (files : FileSystem) : Answer :=
  match argv with
  | [file] =>
      match files.read file with
      | .ok source => ⟨0, Listing.render (Script.parse source) ++ ['\n'], [], [], files⟩
      | .error fault => ⟨1, [], readFailure file fault, [], files⟩
  | _ => ⟨1, [], usage, [], files⟩

end VoidScript.CommandLine.Lister
