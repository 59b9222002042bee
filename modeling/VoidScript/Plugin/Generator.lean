import VoidScript.Log
import VoidScript.Plugin.JavaClass

/-!
Generating plugin classes. A generator collects fragments line by line and hands all of them over
with the finished class, so it can serve one script after another.
-/

namespace VoidScript.Plugin

structure Generator where
  /-- Collected for the class that is being generated. -/
  fragments : List Text
  deriving DecidableEq, Repr

namespace Generator

def fresh : Generator := ⟨[]⟩

def add (generator : Generator) (line : Line) : Generator :=
  match fragment? line.directive with
  | some fragment => ⟨generator.fragments ++ [fragment]⟩
  | none => generator

/-- A line without a fragment is recorded. -/
def account (line : Line) : List Event :=
  match fragment? line.directive with
  | some _ => []
  | none => [.withoutFragment line.number]

/-- The class of a script, what was recorded on the way, and the generator afterwards. -/
structure Result where
  plugin : JavaClass
  log : List Event
  generator : Generator

/-- Collects the fragments of a script and hands them over. -/
def generate (generator : Generator) (script : Script) : Result :=
  let collected := (script.lines.foldl add generator).fragments
  { plugin := ⟨script.metadata.name, collected⟩
    log := script.lines.flatMap account ++ [.generated script.metadata.name collected.length]
    generator := fresh }

/-- The classes of several scripts, generated in turn. -/
def generateAll (generator : Generator) : List Script → List JavaClass × Generator
  | [] => ([], generator)
  | script :: scripts =>
      let result := generator.generate script
      let (plugins, generator) := result.generator.generateAll scripts
      (result.plugin :: plugins, generator)

end Generator

/-- From source text to the text of its plugin class. -/
def translate (source : Text) : Text :=
  (Generator.fresh.generate (Script.parse source)).plugin.render

end VoidScript.Plugin
