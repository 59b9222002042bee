import VoidScript.Plugin.Descriptor
import VoidScript.Plugin.Generator
import VoidScript.Toolchain

/-!
Building a plugin: reading its script, generating its class, writing the class and its descriptor
to the output directory, and packaging them.
-/

namespace VoidScript.Build

structure Options where
  input : Path := "main.void".toList
  /-- The current directory if none is given. -/
  outputDir : Option Path := none
  package : Bool := true
  descriptor : Bool := false
  classpath : Option Text := none
  javac : Path := Toolchain.defaultJavac
  jar : Path := Toolchain.defaultJar
  /-- A packaging step that fails makes the build fail. -/
  strict : Bool := false
  deriving DecidableEq, Repr

/-- Why a build fails. The text of a class or of a descriptor can always be put together. So no
build ends with `formatting`, and a descriptor has no failure of its own. -/
inductive Failure
  | io (fault : Fault)
  | fileNotFound (path : Path)
  | formatting
  | toolchain (step : Toolchain.Step) (outcome : Toolchain.Outcome)
  deriving DecidableEq, Repr

namespace Failure

def formattingCause : Text := "an error occurred when formatting an argument".toList

def message : Failure → Text
  | .io fault => "I/O error: ".toList ++ fault.message
  | .fileNotFound path => "File not found: ".toList ++ path
  | .formatting => "Formatting error: ".toList ++ formattingCause
  | .toolchain step outcome => step.name ++ " step ".toList ++ outcome.text

/-- What lies behind a failure and has a message of its own. -/
def cause? : Failure → Option Text
  | .io fault => some fault.message
  | .formatting => some formattingCause
  | _ => none

end Failure

/-- A step of a build. A failing step keeps what it changed before. -/
def Action (α : Type) : Type := World → Except Failure α × World

namespace Action

instance : Monad Action where
  pure value := fun world => (.ok value, world)
  bind action next := fun world =>
    match action world with
    | (.ok value, world) => next value world
    | (.error failure, world) => (.error failure, world)

theorem pure_apply (value : α) (world : World) :
    (pure value : Action α) world = (.ok value, world) := rfl

theorem bind_apply (action : Action α) (next : α → Action β) (world : World) :
    (action >>= next) world =
      match action world with
      | (.ok value, world) => next value world
      | (.error failure, world) => (.error failure, world) := rfl

end Action

def record (events : List Event) : Action Unit := fun world => (.ok (), world.record events)

/-- A script that was read and turned into a class. -/
structure Compiled where
  sourceFile : Path
  metadata : Metadata
  plugin : Plugin.JavaClass
  deriving DecidableEq, Repr

structure Artifacts where
  javaFile : Path
  descriptorFile : Option Path
  jarFile : Path
  /-- Present if the plugin was packaged. -/
  report : Option Toolchain.Report
  deriving DecidableEq, Repr

def readSource (files : FileSystem) (input : Path) : Except Failure Text :=
  if files.pathExists input then (files.read input).mapError .io else .error (.fileNotFound input)

/-- A dropped line is recorded. -/
def unmatched (source : Text) : List Event :=
  (Source.lines source).filterMap fun line =>
    match Directive.ofLine (Text.trim line) with
    | .dropped family => some (.unmatched family (Text.trim line))
    | _ => none

/-- Reads the script and generates its class. No file changes. -/
def compile (options : Options) : Action Compiled := fun world =>
  match readSource world.files options.input with
  | .error failure => (.error failure, world)
  | .ok source =>
      let script := Script.parse source
      let classified := Event.classified script.metadata.name script.lines.length
      let result := Plugin.Generator.fresh.generate script
      (.ok ⟨options.input, script.metadata, result.plugin⟩,
        world.record (.compiling options.input :: unmatched source ++ classified :: result.log))

def ensureDirectory (dir : Path) : Action Unit := fun world =>
  let (result, files) := world.files.ensureDirectory dir
  (result.mapError .io, { world with files })

def writeFile (path : Path) (content : Text) : Action Unit := fun world =>
  match world.files.write path content with
  | .ok files => (.ok (), { world with files })
  | .error fault => (.error (.io fault), world)

def Options.dir (options : Options) : Path := options.outputDir.getD ['.']

def writeSource (dir : Path) (plugin : Plugin.JavaClass) : Action Path := do
  let file := Path.join dir plugin.fileName
  writeFile file plugin.render
  record [.wroteSource file (Text.byteLength plugin.render)]
  return file

def writeDescriptor (dir : Path) (metadata : Metadata) : Action Path := do
  let file := Path.join dir Plugin.Descriptor.fileName
  writeFile file (Plugin.Descriptor.ofMetadata metadata).yaml
  record [.wroteDescriptor file]
  return file

/-- The descriptor goes into the archive if it was written. -/
def package (machine : Machine) (options : Options) (className : Text) (withDescriptor : Bool) :
    Action Toolchain.Report := fun world =>
  let toolchain : Toolchain := ⟨options.javac, options.jar, options.classpath⟩
  let extraFiles := if withDescriptor then [Plugin.Descriptor.fileName] else []
  let (report, world) := toolchain.build machine options.dir className extraFiles world
  (.ok report, world)

/-- Does an optional step. -/
def whenever (wanted : Bool) (action : Action α) : Action (Option α) := do
  if wanted then return some (← action) else return none

/-- Writes the class and the descriptor and packages them. -/
def produce (machine : Machine) (options : Options) (compiled : Compiled) : Action Artifacts := do
  ensureDirectory options.dir
  let javaFile ← writeSource options.dir compiled.plugin
  let descriptorFile ← whenever options.descriptor (writeDescriptor options.dir compiled.metadata)
  let report ← whenever options.package
    (package machine options compiled.plugin.name descriptorFile.isSome)
  let jarFile := Path.join options.dir (Toolchain.archiveFile compiled.plugin.name)
  return ⟨javaFile, descriptorFile, jarFile, report⟩

/-- A strict build fails with the first packaging step that failed. -/
def judge (strict : Bool) (artifacts : Artifacts) : Action Artifacts := fun world =>
  match strict, artifacts.report.bind (·.failure?) with
  | true, some (step, outcome) => (.error (.toolchain step outcome), world)
  | _, _ => (.ok artifacts, world)

def run (machine : Machine) (options : Options) : Action Artifacts := do
  let compiled ← compile options
  let artifacts ← produce machine options compiled
  judge options.strict artifacts

end VoidScript.Build
