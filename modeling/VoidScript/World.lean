import VoidScript.Log

/-!
What a build reads and changes: the files, the records of the log, and what the tools print.
-/

namespace VoidScript

structure World where
  files : FileSystem
  /-- The oldest record first. -/
  log : List Event
  output : Text

namespace World

def ofFiles (files : FileSystem) : World := ⟨files, [], []⟩

def record (world : World) (events : List Event) : World :=
  { world with log := world.log ++ events }

end World

end VoidScript
