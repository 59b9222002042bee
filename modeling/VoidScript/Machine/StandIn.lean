import VoidScript.Machine

/-!
Stand-ins for the tools of a build. A stand-in writes its arguments to a file of its own in the
working directory, so a build can be tried without the real tools.
-/

namespace VoidScript.Machine

structure StandIn where
  exitCode : Int
  /-- The signal that the stand-in sends to itself in the end. -/
  signal : Option Int
  prints : Option Text
  /-- What the file of the stand-in starts with. A file that was overwritten is none any more. -/
  script : Bytes

namespace StandIn

/-- Adds text at the end of a file, which is created if it is missing. -/
def append (files : FileSystem) (location : Location) (added : Text) : FileSystem :=
  let bytes := Text.bytes added
  match files.lookup location with
  | some .directory => files
  | some (.file file) => files.put location (.file { file with content := file.content ++ bytes })
  | none => files.put location (.file ⟨bytes, false⟩)

/-- Signals that do not end the process that receives them. -/
def harmless : List Int := [0, 17, 18, 23, 28]

def ending (standIn : StandIn) : Ending :=
  match standIn.signal with
  | some signal => if harmless.contains signal then .exited 0 else .killed
  | none => .exited (standIn.exitCode % 256)

def react (standIn : StandIn) (program : Location) (args : List Text) (dir : Location)
    (files : FileSystem) : Reaction where
  ending := standIn.ending
  output := standIn.prints.toList.flatMap (· ++ ['\n'])
  files := append files (dir ++ [(program.getLast?.getD []) ++ ".args".toList])
    (Text.unlines args)

end StandIn

/-- The interpreter that the first line of a script names. -/
def interpreter? (content : Bytes) : Option Bytes :=
  match content with
  | 0x23 :: 0x21 :: rest =>
      let line := rest.takeWhile (· ≠ 0x0a)
      let name := line.dropWhile fun byte => byte = 0x20 || byte = 0x09
      if name.isEmpty then none else some name
  | _ => none

/-- Why a file cannot be started where there is no interpreter. -/
def refusal (content : Bytes) : Fault :=
  if (interpreter? content).isSome then .missing else .notExecutable

/-- A machine that has stand-ins for programs and nothing else. -/
def ofStandIns (searchPath : List Path) (standIns : List (Location × StandIn)) : Machine where
  searchPath := searchPath
  program location args dir files :=
    let content := match files.lookup location with
      | some (.file file) => file.content
      | _ => []
    match standIns.lookup location with
    | some standIn =>
        if standIn.script.isPrefixOf content then standIn.react location args dir files
        else ⟨.refused (refusal content), [], files⟩
    | none => ⟨.refused (refusal content), [], files⟩

end VoidScript.Machine
