import VoidScript.Proofs.Build

/-!
Where the files of a build lie. The name of a script's class is whatever its header says, and it
is also the name of a file. So the class lies below the output directory as long as the name is
relative and does not climb above its start; nothing else that a build writes can leave the output
directory.

* `run_eq_ok`: which files a build reports;
* `run_files`: on a machine whose programs write nothing, all that changes is what the build changes
  itself;
* `mem_outputs_of_changed`: every file that a build has changed is one of its outputs;
* `files_below_output_directory`: only the file of the class can leave the output directory, and
  which names keep it there.
-/

namespace VoidScript

/-- No program of the machine changes a file. -/
def Machine.Idle (machine : Machine) : Prop :=
  ∀ program args dir files, (machine.program program args dir files).files = files

namespace Toolchain

variable {machine : Machine}

theorem start_files (idle : machine.Idle) (files : FileSystem) (program : Path)
    (args : List Text) (dir : Path) : (machine.start files program args dir).files = files := by
  unfold Machine.start
  split
  · rfl
  · split
    · rfl
    · split
      · rfl
      · exact idle ..

theorem runStep_files (idle : machine.Idle) (step : Step) (program : Path) (args : List Text)
    (dir : Path) (world : World) :
    (runStep machine step program args dir world).2.files = world.files := by
  unfold runStep
  split
  · rfl
  · exact start_files idle ..

theorem build_files (idle : machine.Idle) (toolchain : Toolchain) (dir : Path) (className : Text)
    (extraFiles : List Text) (world : World) :
    (toolchain.build machine dir className extraFiles world).2.files = world.files := by
  change (runStep _ _ _ _ _ (runStep _ _ _ _ _ world).2).2.files = world.files
  rw [runStep_files idle, runStep_files idle]

end Toolchain

namespace Build

open VoidScript.Path (destination Below stays)

/-- Packaging reports the files that were prepared. -/
theorem finish_eq_ok {machine : Machine} {options : Options} {prepared : Prepared}
    {world after : World} {artifacts : Artifacts}
    (h : finish machine options prepared world = (.ok artifacts, after)) :
    artifacts.javaFile = prepared.javaFile ∧
      artifacts.descriptorFile = prepared.descriptorFile := by
  obtain ⟨report, middle, -, h⟩ := Action.bind_eq_ok.mp h
  unfold judge at h
  split at h
  · cases h
  · cases h
    exact ⟨rfl, rfl⟩

theorem finish_files {machine : Machine} (idle : machine.Idle) (options : Options)
    (prepared : Prepared) (world : World) :
    (finish machine options prepared world).2.files = world.files := by
  unfold finish
  cases options.package with
  | false =>
    change (judge _ _ world).2.files = world.files
    rw [judge_world]
  | true =>
    change (judge _ _ (package machine options _ _ world).2).2.files = world.files
    rw [judge_world]
    exact Toolchain.build_files idle ..

theorem run_files {machine : Machine} (idle : machine.Idle) (options : Options) (world : World) :
    (run machine options world).2.files = (prepare options world).2.files := by
  rw [run_eq, Action.bind_apply]
  split
  · rename_i prepared after h
    rw [finish_files idle, h]
  · rename_i failure after h
    rw [h]

/-- The files that a build reports. -/
theorem run_eq_ok {machine : Machine} {options : Options} {world after : World} {source : Text}
    {artifacts : Artifacts} (h : world.files.read options.input = .ok source)
    (success : run machine options world = (.ok artifacts, after)) :
    artifacts.javaFile =
        Path.join options.dir ((Script.parse source).metadata.name ++ ".java".toList) ∧
      artifacts.descriptorFile = if options.descriptor then
        some (Path.join options.dir Plugin.Descriptor.fileName) else none := by
  rw [run_eq] at success
  obtain ⟨prepared, middle, hp, hf⟩ := Action.bind_eq_ok.mp success
  obtain ⟨text, hr, ready⟩ := prepare_ready hp
  obtain rfl : source = text := Except.ok.inj (h.symm.trans hr)
  obtain ⟨java, descriptor⟩ := finish_eq_ok hf
  rw [java, descriptor]
  exact ⟨ready.javaFile, ready.descriptorFile⟩

/-- Every file that a build has changed is one of its outputs. -/
theorem mem_outputs_of_changed {options : Options} {world : World} {source : Text}
    (h : world.files.read options.input = .ok source) {location : Location} {file : File}
    (now : (prepare options world).2.files.lookup location = some (.file file))
    (changed : world.files.lookup location ≠ some (.file file)) :
    location ∈ (outputs options source).map (destination world.files.current ·.1) := by
  have change := (prepare_writes h).entry location
  rw [now] at change
  generalize world.files.lookup location = old at change changed
  cases change with
  | same => exact absurd rfl changed
  | file _ target => exact target

theorem descriptor_below (current : Location) (dir : Path) :
    Below (destination current dir)
      (destination current (Path.join dir Plugin.Descriptor.fileName)) := by
  rw [destination_descriptor]
  exact ⟨List.prefix_append _ _, by simp⟩

theorem destination_class_ne_nil (name : Text) :
    destination [] (name ++ ".java".toList) ≠ [] := by
  obtain ⟨front, stem, hp⟩ :=
    Path.parts_append_extension class_extension.1 class_extension.2 name
  rw [destination, hp, List.foldl_append]
  exact List.concat_ne_nil _ _

/-- A build writes its files below the output directory, with one exception: the file of the class
lies where the name of the class leads. That is below the output directory, whatever the output
directory is, exactly if the name is relative and never climbs above its start. -/
theorem files_below_output_directory {options : Options} {world : World} {source : Text}
    (h : world.files.read options.input = .ok source) :
    let current := world.files.current
    let classFile := (Script.parse source).metadata.name ++ ".java".toList
    (∀ machine, run machine options = prepare options >>= finish machine options) ∧
    (∀ machine artifacts after, run machine options world = (.ok artifacts, after) →
      artifacts.javaFile = Path.join options.dir classFile ∧
      ∀ file ∈ artifacts.descriptorFile,
        Below (destination current options.dir) (destination current file)) ∧
    (∀ machine : Machine, machine.Idle →
      (run machine options world).2.files = (prepare options world).2.files) ∧
    (∀ location file, (prepare options world).2.files.lookup location = some (.file file) →
      world.files.lookup location ≠ some (.file file) →
      Below (destination current options.dir) location ∨
        stays classFile = false ∧
          location = destination current (Path.join options.dir classFile)) ∧
    (stays classFile = true ↔ ∀ current dir,
      Below (destination current dir) (destination current (Path.join dir classFile))) := by
  intro current classFile
  have stays_iff : stays classFile = true ↔ ∀ current dir,
      Below (destination current dir) (destination current (Path.join dir classFile)) :=
    Path.stays_iff (destination_class_ne_nil _)
  refine ⟨fun machine => run_eq machine options, ?_,
    fun machine idle => run_files idle options world, ?_, stays_iff⟩
  · intro machine artifacts after success
    obtain ⟨java, descriptor⟩ := run_eq_ok h success
    refine ⟨java, fun file hf => ?_⟩
    rw [descriptor] at hf
    split at hf
    · obtain rfl := Option.some.inj hf
      exact descriptor_below current options.dir
    · cases hf
  · intro location file now changed
    rcases mem_outputs_location (mem_outputs_of_changed h now changed) with rfl | ⟨-, rfl⟩
    · cases stay : stays classFile with
      | true => exact .inl (stays_iff.mp stay current options.dir)
      | false => exact .inr ⟨rfl, rfl⟩
    · exact .inl (descriptor_below current options.dir)

theorem exists_file {found : Option Entry} (h : found ≠ none ∧ found ≠ some .directory) :
    ∃ file, found = some (.file file) := by
  cases found with
  | none => exact absurd rfl h.1
  | some entry =>
    cases entry with
    | directory => exact absurd rfl h.2
    | file file => exact ⟨file, rfl⟩

/-- A name may lead down, and up again as far as it led down. -/
theorem files_below_output_directory_in_subdirectory :
    let options : Options := { outputDir := some "out".toList, package := false }
    let world := World.ofFiles (scriptDirectory "name: sub/./../sub/Greeter".toList)
    let location := ["home", "out", "sub", "Greeter.java"].map String.toList
    world.files.read options.input = .ok "name: sub/./../sub/Greeter".toList ∧
    world.files.lookup location = none ∧
    (∃ file, (prepare options world).2.files.lookup location = some (.file file)) ∧
    Below (destination world.files.current options.dir) location := by
  intro options world location
  have read : world.files.read options.input = .ok "name: sub/./../sub/Greeter".toList := by
    decide +kernel
  have absent : world.files.lookup location = none := by decide +kernel
  obtain ⟨file, now⟩ : ∃ file,
      (prepare options world).2.files.lookup location = some (.file file) :=
    exists_file (by decide +kernel)
  have stay : stays ((Script.parse "name: sub/./../sub/Greeter".toList).metadata.name
      ++ ".java".toList) = true := by
    decide +kernel
  refine ⟨read, absent, ⟨file, now⟩, ?_⟩
  rcases (files_below_output_directory read).2.2.2.1 location file now (by simp [absent]) with
    below | ⟨leaves, -⟩
  · exact below
  · rw [stay] at leaves
    cases leaves

/-- Nothing stops a name that climbs: the build succeeds, and the class lies beside the output
directory. -/
theorem climbing_name_leaves_directory :
    let machine : Machine := ⟨[], fun _ _ _ files => ⟨.refused .notExecutable, [], files⟩⟩
    let options : Options := { outputDir := some "out".toList, package := false }
    let world := World.ofFiles (scriptDirectory "name: ../up".toList)
    let location := ["home", "up.java"].map String.toList
    (run machine options world).1.isOk = true ∧
    world.files.lookup location = none ∧
    (∃ file, (run machine options world).2.files.lookup location = some (.file file)) ∧
    ¬ Below (destination world.files.current options.dir) location := by
  intro machine options world location
  exact ⟨by decide +kernel, by decide +kernel, exists_file (by decide +kernel), by decide +kernel⟩

end Build

end VoidScript
