import VoidScript.CommandLine.Lister

/-!
The compiler as a program. It looks at the files that a request names, answers the request on a
copy of them, and writes what has changed. It starts no other program, so packaging reports its
tools as not found.
-/

namespace VoidScript.Program

/-- What stands at a path. What exists and cannot be read as a file counts as a directory. -/
def survey (path : String) : IO (Option Entry) := do
  try return some (.file ⟨(← IO.FS.readBinFile path).data.toList, false⟩)
  catch
    | .noFileOrDirectory .. => return none
    | _ => return some .directory

def surveyAll (files : FileSystem) (paths : List Path) : IO FileSystem :=
  paths.foldlM
    (fun files path => do
      match ← survey (String.ofList path) with
      | some entry => return files.put (Path.destination files.current path) entry
      | none => return files)
    files

/-- Every directory on the way to the current one. -/
def currentDirectory : IO FileSystem := do
  let path := ((← IO.getEnv "PWD").getD "/").toList
  let above := (Path.above (Path.components path).reverse).map (Path.ofComponents true)
  let directories := (path :: above).map fun path => (Path.destination [] path, Entry.directory)
  return ⟨Path.destination [] path, directories⟩

def pathsOf (options : Build.Options) : List Path :=
  Path.ancestors options.input ++ Path.ancestors options.dir

def writeChange (location : Location) (entry : Entry) : IO Unit := do
  let path := String.ofList (Path.ofComponents true (location.map .name))
  match entry with
  | .directory => IO.FS.createDirAll path
  | .file file => IO.FS.writeBinFile path ⟨file.content.toArray⟩

def deliver (before : FileSystem) (answer : CommandLine.Answer) : IO UInt32 := do
  for (location, entry) in (answer.files.changesSince before).reverse do
    writeChange location entry
  for event in answer.log do
    IO.eprintln (String.ofList (event.level.name ++ " ".toList ++ event.component.name
      ++ ": ".toList ++ event.text))
  IO.print (String.ofList answer.output)
  IO.eprint (String.ofList answer.errors)
  return answer.exit.toUInt32

def run (argv : List String) : IO UInt32 := do
  let lookup (name : String) : IO (Option Text) := return (← IO.getEnv name).map String.toList
  let environment : CommandLine.Environment :=
    ⟨← lookup "VOIDC_JAVAC", ← lookup "VOIDC_JAR", ← lookup "RUST_LOG"⟩
  let argv := argv.map String.toList
  let files ← currentDirectory
  let files ←
    match CommandLine.Compiler.request environment argv with
    | .ok request => surveyAll files (pathsOf request.options)
    | .error _ => pure files
  let machine : Machine := ⟨[], fun _ _ _ files => ⟨.refused .notExecutable, [], files⟩⟩
  deliver files (CommandLine.Compiler.run machine environment argv files)

end VoidScript.Program

def main (argv : List String) : IO UInt32 := VoidScript.Program.run argv
