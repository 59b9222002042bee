import VoidScript.Build
import VoidScript.CommandLine.Help
import VoidScript.Log.Filter

/-!
The compiler's command line: it prints the generated class or builds the plugin, and reports a
failure in one line.
-/

namespace VoidScript.CommandLine

/-- The variables of the environment that the compiler looks at. -/
structure Environment where
  javac : Option Text
  jar : Option Text
  /-- Which records are shown. -/
  logFilter : Option Text

/-- What a command leaves behind. -/
structure Answer where
  exit : Nat
  output : Text
  errors : Text
  /-- The records that are shown. -/
  log : List Event
  files : FileSystem

namespace Compiler

def version : Text := "voidc 0.1.0\n".toList

/-- What the arguments ask for. -/
structure Request where
  options : Build.Options
  emitOnly : Bool
  filter : Log.Filter

/-- A filter that cannot be read counts as none. -/
def filter (environment : Environment) (verbose : Bool) : Log.Filter :=
  (environment.logFilter.bind Log.Filter.ofText?).getD
    [.general (.upTo (if verbose then .debug else .info))]

def request (environment : Environment) (argv : List Text) : Except Stop Request := do
  let arguments ← Arguments.read argv
  let javac ← arguments.valueOr .javac environment.javac Toolchain.defaultJavac
  let jar ← arguments.valueOr .jar environment.jar Toolchain.defaultJar
  let defaults : Build.Options := {}
  let options : Build.Options :=
    { input := (arguments.value? .file).getD defaults.input
      outputDir := arguments.value? .output
      package := !arguments.has .noPackage
      descriptor := arguments.has .descriptor
      classpath := arguments.value? .classpath
      javac
      jar
      strict := arguments.has .strict }
  return ⟨options, arguments.has .emitOnly, filter environment (arguments.has .verbose)⟩

/-- The failure behind what was being done, and the cause behind the failure. -/
def failureLine (doing : String) (input : Path) (failure : Build.Failure) : Text :=
  "Compilation failed: ".toList ++ doing.toList ++ " ".toList ++ input ++ ": ".toList
    ++ failure.message ++ failure.cause?.toList.flatMap (": ".toList ++ ·) ++ "\n".toList

/-- What is recorded about a finished build. -/
def closing (artifacts : Build.Artifacts) : List Event :=
  .sourceReady artifacts.javaFile ::
    artifacts.report.toList.map fun report =>
      if report.isSuccess then .packaged artifacts.jarFile else .notPackaged report

/-- Prints the class without writing it. -/
def emit (options : Build.Options) (world : World) : Answer :=
  match Build.compile options world with
  | (.ok compiled, world) => ⟨0, compiled.plugin.render, [], world.log, world.files⟩
  | (.error failure, world) =>
      ⟨1, [], failureLine "translating" options.input failure, world.log, world.files⟩

def build (machine : Machine) (options : Build.Options) (world : World) : Answer :=
  match Build.run machine options world with
  | (.ok artifacts, world) =>
      ⟨0, world.output, [], world.log ++ closing artifacts, world.files⟩
  | (.error failure, world) =>
      ⟨1, world.output, failureLine "building" options.input failure, world.log, world.files⟩

def perform (machine : Machine) (request : Request) (files : FileSystem) : Answer :=
  let answer :=
    if request.emitOnly then emit request.options (.ofFiles files)
    else build machine request.options (.ofFiles files)
  { answer with log := answer.log.filter request.filter.shows }

def run (machine : Machine) (environment : Environment) (argv : List Text) (files : FileSystem) :
    Answer :=
  match request environment argv with
  | .ok request => perform machine request files
  | .error .help => ⟨0, Help.text environment.javac environment.jar, [], [], files⟩
  | .error .version => ⟨0, version, [], [], files⟩
  | .error (.misused error) => ⟨2, [], error.message ++ "\n".toList, [], files⟩

end Compiler

end VoidScript.CommandLine
