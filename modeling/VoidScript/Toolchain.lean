import VoidScript.Machine
import VoidScript.World

/-!
Packaging: compiling the generated class and archiving the result, both inside the output
directory. A step that fails never stops the next one.
-/

namespace VoidScript

structure Toolchain where
  javac : Path
  jar : Path
  /-- Where the compiler finds the classes that a plugin uses. -/
  classpath : Option Text
  deriving DecidableEq, Repr

namespace Toolchain

def defaultJavac : Path := "javac".toList

def defaultJar : Path := "jar".toList

def standard : Toolchain := ⟨defaultJavac, defaultJar, none⟩

def compileArgs (toolchain : Toolchain) (sourceFile : Text) : List Text :=
  toolchain.classpath.toList.flatMap (fun classpath => ["-cp".toList, classpath]) ++ [sourceFile]

def sourceFile (className : Text) : Text := className ++ ".java".toList

def archiveFile (className : Text) : Text := className ++ ".jar".toList

def classFile (className : Text) : Text := className ++ ".class".toList

def archiveArgs (className : Text) (extraFiles : List Text) : List Text :=
  ["cvf".toList, archiveFile className, classFile className] ++ extraFiles

def Outcome.ofEnding : Ending → Outcome
  | .exited code => if code = 0 then .succeeded else .failed (some code)
  | .killed => .failed none
  | .refused fault => .unavailable fault.message

def notFound (program : Path) : Outcome :=
  .unavailable (program ++ ": cannot find binary path".toList)

/-- Runs one step, if its tool can be found. -/
def runStep (machine : Machine) (step : Step) (program : Path) (args : List Text) (dir : Path)
    (world : World) : Outcome × World :=
  match machine.find? world.files program with
  | none => (notFound program, world.record [.skipped step (notFound program)])
  | some path =>
      let reaction := machine.start world.files path args dir
      let outcome := Outcome.ofEnding reaction.ending
      let verdict := if outcome.isSuccess then [] else [Event.failed step outcome]
      (outcome,
        { files := reaction.files
          log := world.log ++ .started step path args :: verdict
          output := world.output ++ reaction.output })

/-- Compiles the class and archives it, whatever came of compiling it. -/
def build (toolchain : Toolchain) (machine : Machine) (dir : Path) (className : Text)
    (extraFiles : List Text) (world : World) : Report × World :=
  let compileArgs := toolchain.compileArgs (sourceFile className)
  let (compile, world) := runStep machine .compile toolchain.javac compileArgs dir world
  let archiveArgs := archiveArgs className extraFiles
  let (archive, world) := runStep machine .archive toolchain.jar archiveArgs dir world
  (⟨compile, archive⟩, world)

end Toolchain

end VoidScript
