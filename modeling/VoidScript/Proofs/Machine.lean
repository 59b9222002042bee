import VoidScript.Machine
import VoidScript.Proofs.Path

/-!
Which program a path starts. A program is looked for from the current directory and started from
another one, so a relative path that was found may lead to another program there, or to none.

* `find?_isAbsolute`: what is found has a relative path only through a relative directory of the
  search path;
* `locate_of_find?`: an absolute path leads to the program that was found, from every directory.
-/

namespace VoidScript

theorem FileSystem.resolve_of_isAbsolute (files : FileSystem) (dir : Location) {path : Path}
    (absolute : Path.isAbsolute path = true) :
    { files with current := dir }.resolve path = files.resolve path := by
  simp only [resolve, start, absolute, if_true]
  rfl

namespace Machine

theorem executable_of_isAbsolute (files : FileSystem) (dir : Location) {path : Path}
    (absolute : Path.isAbsolute path = true) :
    executable { files with current := dir } path = executable files path := by
  simp only [executable, files.resolve_of_isAbsolute dir absolute]
  rfl

theorem find?_isAbsolute {machine : Machine} {files : FileSystem} {name path : Path}
    (absolute : ∀ dir ∈ machine.searchPath, Path.isAbsolute dir = true)
    (found : machine.find? files name = some path) : Path.isAbsolute path = true := by
  have candidate := List.mem_of_find?_eq_some found
  split at candidate
  · obtain ⟨dir, listed, rfl⟩ := List.mem_map.mp candidate
    exact Path.isAbsolute_join_of_isAbsolute (absolute dir listed) name
  · obtain rfl := List.mem_singleton.mp candidate
    exact Path.isAbsolute_join_of_isAbsolute rfl name

/-- Where all directories of the search path are absolute, it does not matter where a program that
was found is started. -/
theorem locate_of_find? {machine : Machine} {files : FileSystem} {name path : Path}
    (absolute : ∀ dir ∈ machine.searchPath, Path.isAbsolute dir = true)
    (found : machine.find? files name = some path) :
    ∃ location, executable files path = .ok location ∧
      ∀ dir, machine.locate { files with current := dir } path = .ok location := by
  have rooted := find?_isAbsolute absolute found
  have slash : path.contains '/' = true :=
    List.contains_iff_mem.mpr (List.mem_of_head? (beq_iff_eq.mp rooted))
  have runs := List.find?_some (p := fun path => (executable files path).isOk) found
  cases h : executable files path with
  | error fault =>
    rw [h] at runs
    cases runs
  | ok location =>
    refine ⟨location, rfl, fun dir => ?_⟩
    rw [locate, if_pos slash, executable_of_isAbsolute files dir rooted, h]

-- A relative directory of the search path leads to one program before and to another one after.
example :
    let machine : Machine := ⟨["tools".toList], fun _ _ _ files => ⟨.exited 0, [], files⟩⟩
    let entry (names : List String) (entry : Entry) := (names.map String.toList, entry)
    let tool : Entry := .file ⟨[], true⟩
    let files : FileSystem := ⟨["home".toList], [entry ["home"] .directory,
      entry ["home", "tools"] .directory, entry ["home", "tools", "jar"] tool,
      entry ["home", "out"] .directory, entry ["home", "out", "tools"] .directory,
      entry ["home", "out", "tools", "jar"] tool]⟩
    machine.find? files "jar".toList = some "tools/jar".toList ∧
    executable files "tools/jar".toList = .ok (["home", "tools", "jar"].map String.toList) ∧
    machine.locate { files with current := ["home", "out"].map String.toList }
      "tools/jar".toList = .ok (["home", "out", "tools", "jar"].map String.toList) := by
  decide +kernel

end Machine

end VoidScript
