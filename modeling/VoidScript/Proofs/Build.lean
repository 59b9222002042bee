import VoidScript.Build
import VoidScript.Proofs.FileSystem

/-!
The steps of a build, and what each does to the files.

* `run_eq`: a build prepares its files and then packages them;
* `compile_eq_ok_iff`: compiling gives what follows from the text of the script;
* `prepare_writes`: preparing changes the files of the build and the directories on the way to
  them, also where it fails;
* `prepare_ready`: a prepared build has its files, each with the text that belongs there.
-/

namespace VoidScript.Build

open VoidScript.Path (destination)
open FileSystem (Changes)

/-! ## Actions -/

namespace Action

theorem bind_pure_self (action : Action α) : (action >>= fun value => pure value) = action := by
  funext world
  rw [bind_apply]
  split <;> rename_i h <;> exact h.symm

theorem bind_assoc (action : Action α) (next : α → Action β) (last : β → Action γ) :
    action >>= next >>= last = action >>= fun value => next value >>= last := by
  funext world
  rw [bind_apply, bind_apply, bind_apply]
  cases action world with
  | mk result after => cases result <;> rfl

instance : LawfulMonad Action :=
  LawfulMonad.mk' Action bind_pure_self (fun _ _ => rfl) bind_assoc

theorem bind_eq_ok {action : Action α} {next : α → Action β} {world after : World} {value : β} :
    (action >>= next) world = (.ok value, after) ↔
      ∃ x middle, action world = (.ok x, middle) ∧ next x middle = (.ok value, after) := by
  rw [bind_apply]
  constructor
  · intro h
    split at h
    · rename_i x middle hx
      exact ⟨x, middle, hx, h⟩
    · cases h
  · rintro ⟨x, middle, hx, h⟩
    rw [hx]
    exact h

theorem bind_eq_error {action : Action α} {next : α → Action β} {world after : World}
    {failure : Failure} :
    (action >>= next) world = (.error failure, after) ↔
      action world = (.error failure, after) ∨
        ∃ x middle, action world = (.ok x, middle) ∧ next x middle = (.error failure, after) := by
  rw [bind_apply]
  constructor
  · intro h
    split at h
    · rename_i x middle hx
      exact .inr ⟨x, middle, hx, h⟩
    · rename_i cause middle hc
      cases h
      exact .inl hc
  · rintro (h | ⟨x, middle, hx, h⟩)
    · rw [h]
    · rw [hx]
      exact h

/-- What a sequence changes is changed by its steps, of which the second may not be reached. -/
theorem bind_changes {action : Action α} {next : α → Action β} {world : World}
    {made written : List Location}
    (first : Changes made written world.files (action world).2.files)
    (second : ∀ value after, action world = (.ok value, after) →
      after.files.current = world.files.current →
      Changes made written after.files (next value after).2.files) :
    Changes made written world.files ((action >>= next) world).2.files := by
  rw [bind_apply]
  split
  · rename_i value after h
    rw [h] at first
    exact first.trans (second value after h first.current)
  · rename_i failure after h
    rw [h] at first
    exact first

end Action

/-! ## Compiling -/

/-- What compiling makes of the text of a script. -/
def Compiled.ofSource (input : Path) (source : Text) : Compiled where
  sourceFile := input
  metadata := (Script.parse source).metadata
  plugin := (Plugin.Generator.fresh.generate (Script.parse source)).plugin

theorem readSource_eq_ok_iff {files : FileSystem} {input : Path} {source : Text} :
    readSource files input = .ok source ↔ files.read input = .ok source := by
  unfold readSource
  constructor
  · intro h
    split_ifs at h
    cases hr : files.read input with
    | error fault => rw [hr] at h; cases h
    | ok text => rw [hr] at h; cases h; rfl
  · intro h
    rw [if_pos (FileSystem.pathExists_of_read h), h]
    rfl

theorem compile_files (options : Options) (world : World) :
    (compile options world).2.files = world.files := by
  unfold compile
  split <;> rfl

theorem compile_eq_ok_iff {options : Options} {world : World} {compiled : Compiled} :
    (compile options world).1 = .ok compiled ↔
      ∃ source, world.files.read options.input = .ok source ∧
        compiled = .ofSource options.input source := by
  unfold compile
  constructor
  · intro h
    split at h
    · cases h
    · rename_i source hs
      exact ⟨source, readSource_eq_ok_iff.mp hs, (Except.ok.inj h).symm⟩
  · rintro ⟨source, hs, rfl⟩
    rw [readSource_eq_ok_iff.mpr hs]
    rfl

theorem compile_eq_error_iff {options : Options} {world : World} {failure : Failure} :
    (compile options world).1 = .error failure ↔
      readSource world.files options.input = .error failure := by
  unfold compile
  split
  · rename_i cause hc
    rw [hc, Except.error.injEq, Except.error.injEq]
  · rename_i source hs
    rw [hs]
    exact ⟨nofun, nofun⟩

theorem compile_error_world {options : Options} {world : World} {failure : Failure}
    (h : (compile options world).1 = .error failure) :
    compile options world = (.error failure, world) := by
  unfold compile at h ⊢
  split at h
  · rename_i cause _
    obtain rfl : cause = failure := Except.error.inj h
    rfl
  · cases h

/-! ## Preparing and packaging -/

/-- The files of a build before it is packaged. -/
structure Prepared where
  compiled : Compiled
  javaFile : Path
  descriptorFile : Option Path

/-- The part of a build that does not need the tools. -/
def prepare (options : Options) : Action Prepared := do
  let compiled ← compile options
  ensureDirectory options.dir
  let javaFile ← writeSource options.dir compiled.plugin
  let descriptorFile ← whenever options.descriptor (writeDescriptor options.dir compiled.metadata)
  return ⟨compiled, javaFile, descriptorFile⟩

/-- The part of a build that runs the tools, if it is to be packaged. -/
def finish (machine : Machine) (options : Options) (prepared : Prepared) : Action Artifacts := do
  let className := prepared.compiled.plugin.name
  let report ← whenever options.package
    (package machine options className prepared.descriptorFile.isSome)
  judge options.strict ⟨prepared.javaFile, prepared.descriptorFile,
    Path.join options.dir (Toolchain.archiveFile className), report⟩

theorem run_eq (machine : Machine) (options : Options) :
    run machine options = prepare options >>= finish machine options := by
  simp only [run, produce, prepare, finish, bind_assoc, pure_bind]

/-- Without packaging, a build ends when its files are prepared. -/
theorem finish_of_not_package {options : Options} (h : options.package = false)
    (machine : Machine) (prepared : Prepared) (world : World) :
    finish machine options prepared world =
      (.ok ⟨prepared.javaFile, prepared.descriptorFile,
        Path.join options.dir (Toolchain.archiveFile prepared.compiled.plugin.name), none⟩,
        world) := by
  rw [finish, h]
  cases options.strict <;> rfl

theorem judge_world (strict : Bool) (artifacts : Artifacts) (world : World) :
    (judge strict artifacts world).2 = world := by
  unfold judge
  split <;> rfl

/-! ## Written files -/

/-- Writing a file and recording it. -/
def store (file : Path) (content : Text) (event : Event) : Action Path := do
  writeFile file content
  record [event]
  return file

theorem writeSource_eq (dir : Path) (plugin : Plugin.JavaClass) :
    writeSource dir plugin = store (Path.join dir plugin.fileName) plugin.render
      (.wroteSource (Path.join dir plugin.fileName) (Text.byteLength plugin.render)) := rfl

theorem writeDescriptor_eq (dir : Path) (metadata : Metadata) :
    writeDescriptor dir metadata = store (Path.join dir Plugin.Descriptor.fileName)
      (Plugin.Descriptor.ofMetadata metadata).yaml
      (.wroteDescriptor (Path.join dir Plugin.Descriptor.fileName)) := rfl

theorem store_eq_ok {file path : Path} {content : Text} {event : Event} {world after : World}
    (h : store file content event world = (.ok path, after)) :
    path = file ∧ world.files.write file content = .ok after.files := by
  obtain ⟨⟨⟩, middle, hw, h⟩ := Action.bind_eq_ok.mp h
  cases h
  unfold writeFile at hw
  split at hw
  · rename_i files ok
    cases hw
    exact ⟨rfl, ok⟩
  · cases hw

theorem store_changes (file : Path) (content : Text) (event : Event) (world : World) :
    Changes [] [destination world.files.current file] world.files
      (store file content event world).2.files := by
  apply Action.bind_changes
  · unfold writeFile
    split
    · rename_i files ok
      exact FileSystem.write_changes ok
    · exact .refl world.files
  · intro _ after _ _
    exact .refl after.files

theorem ensureDirectory_eq_ok {dir : Path} {world after : World}
    (h : ensureDirectory dir world = (.ok (), after)) :
    (world.files.ensureDirectory dir).1 = .ok () ∧
      after.files = (world.files.ensureDirectory dir).2 := by
  unfold ensureDirectory at h
  cases hd : world.files.ensureDirectory dir with
  | mk result files =>
    rw [hd] at h
    cases result with
    | ok => cases h; exact ⟨rfl, rfl⟩
    | error => cases h

theorem whenever_eq_ok {wanted : Bool} {action : Action α} {world after : World}
    {result : Option α} (h : whenever wanted action world = (.ok result, after)) :
    (wanted = true ∧ ∃ value, result = some value ∧ action world = (.ok value, after)) ∨
      (wanted = false ∧ result = none ∧ after = world) := by
  cases wanted with
  | false =>
    cases h
    exact .inr ⟨rfl, rfl, rfl⟩
  | true =>
    obtain ⟨value, middle, ha, h⟩ := Action.bind_eq_ok.mp h
    cases h
    exact .inl ⟨rfl, value, rfl, ha⟩

theorem whenever_changes {wanted : Bool} {action : Action α} {world : World}
    {made written : List Location}
    (h : wanted = true → Changes made written world.files (action world).2.files) :
    Changes made written world.files (whenever wanted action world).2.files := by
  cases wanted with
  | false => exact .refl world.files
  | true => exact Action.bind_changes (h rfl) fun _ after _ _ => .refl after.files

/-- The files that belong to a build of a script, and what they hold. -/
def outputs (options : Options) (source : Text) : List (Path × Text) :=
  let metadata := (Script.parse source).metadata
  (Path.join options.dir (metadata.name ++ ".java".toList), Plugin.translate source) ::
    if options.descriptor then
      [(Path.join options.dir Plugin.Descriptor.fileName,
        (Plugin.Descriptor.ofMetadata metadata).yaml)]
    else []

theorem descriptor_mem_outputs {options : Options} (wanted : options.descriptor = true)
    (source : Text) :
    (Path.join options.dir Plugin.Descriptor.fileName,
      (Plugin.Descriptor.ofMetadata (Script.parse source).metadata).yaml) ∈
        outputs options source := by
  simp [outputs, wanted]

theorem mem_outputs_location {options : Options} {source : Text} {current location : Location}
    (h : location ∈ (outputs options source).map (destination current ·.1)) :
    location = destination current
        (Path.join options.dir ((Script.parse source).metadata.name ++ ".java".toList)) ∨
      options.descriptor = true ∧
        location = destination current (Path.join options.dir Plugin.Descriptor.fileName) := by
  obtain ⟨output, ho, rfl⟩ := List.mem_map.mp h
  rcases List.mem_cons.mp ho with rfl | ho
  · exact .inl rfl
  · split at ho
    · rename_i wanted
      rw [List.mem_singleton.mp ho]
      exact .inr ⟨wanted, rfl⟩
    · cases ho

/-- Behind the extension of a class there is a name, whatever stands before it. -/
theorem class_extension : '/' ∉ ".java".toList ∧ 2 < ".java".toList.length := by decide

theorem destination_descriptor (current : Location) (dir : Path) :
    destination current (Path.join dir Plugin.Descriptor.fileName) =
      destination current dir ++ [Plugin.Descriptor.fileName] := by
  have single : Path.parts Plugin.Descriptor.fileName = [.name Plugin.Descriptor.fileName] := by
    decide
  rw [Path.destination_join rfl current, single]
  rfl

/-- The last names of the two files have different endings. -/
theorem class_ne_descriptor (current : Location) (dir : Path) (name : Text) :
    destination current (Path.join dir (name ++ ".java".toList)) ≠
      destination current (Path.join dir Plugin.Descriptor.fileName) := by
  obtain ⟨location, stem, hl⟩ :=
    Path.destination_join_extension class_extension.1 class_extension.2 current dir name
  rw [destination_descriptor, hl]
  intro same
  have last : stem ++ ".java".toList = Plugin.Descriptor.fileName :=
    List.singleton_inj.mp (List.append_inj' same rfl).2
  have ending : ".java".toList <:+ Plugin.Descriptor.fileName := ⟨stem, last⟩
  exact absurd ending (by decide)

/-- Where a build of a script makes directories and where it writes files. -/
abbrev Writes (options : Options) (source : Text) (before after : FileSystem) : Prop :=
  Changes ((Path.ancestors options.dir).map (destination before.current))
    ((outputs options source).map (destination before.current ·.1)) before after

theorem ensureDirectory_writes (options : Options) (source : Text) (world : World) :
    Writes options source world.files (ensureDirectory options.dir world).2.files :=
  (FileSystem.ensureDirectory_changes world.files options.dir).mono (List.Subset.refl _)
    (List.nil_subset _)

theorem store_writes {options : Options} {source : Text} {output : Path × Text}
    (h : output ∈ outputs options source) (event : Event) (world : World) :
    Writes options source world.files (store output.1 output.2 event world).2.files := by
  refine (store_changes output.1 output.2 event world).mono (List.nil_subset _) ?_
  intro location hl
  obtain rfl := List.mem_singleton.mp hl
  exact List.mem_map_of_mem h

theorem prepare_writes {options : Options} {world : World} {source : Text}
    (h : world.files.read options.input = .ok source) :
    Writes options source world.files (prepare options world).2.files := by
  -- The locations are seen from the first world; `here` says that no step moves away from it.
  apply Action.bind_changes
  · rw [compile_files]
    exact .refl world.files
  intro compiled first done here
  have made : (compile options world).1 = .ok (.ofSource options.input source) :=
    compile_eq_ok_iff.mpr ⟨source, h, rfl⟩
  obtain rfl : Compiled.ofSource options.input source = compiled := by
    rw [done] at made
    exact (Except.ok.inj made).symm
  rw [← here]
  refine Action.bind_changes (ensureDirectory_writes options source first) ?_
  intro _ second _ here
  rw [← here, writeSource_eq]
  refine Action.bind_changes (store_writes (List.mem_cons_self ..) _ second) ?_
  intro _ third _ here
  rw [← here]
  refine Action.bind_changes (whenever_changes fun wanted => ?_) fun _ last _ _ => .refl last.files
  rw [writeDescriptor_eq]
  exact store_writes (descriptor_mem_outputs wanted source) _ third

/-- The operations on files of a build that gets as far as packaging. -/
theorem prepare_eq_ok {options : Options} {world after : World} {prepared : Prepared}
    (h : prepare options world = (.ok prepared, after)) :
    ∃ source files, world.files.read options.input = .ok source ∧
      prepared.javaFile =
        Path.join options.dir ((Script.parse source).metadata.name ++ ".java".toList) ∧
      (world.files.ensureDirectory options.dir).1 = .ok () ∧
      (world.files.ensureDirectory options.dir).2.write prepared.javaFile
        (Plugin.translate source) = .ok files ∧
      ((options.descriptor = true ∧
          prepared.descriptorFile = some (Path.join options.dir Plugin.Descriptor.fileName) ∧
          files.write (Path.join options.dir Plugin.Descriptor.fileName)
            (Plugin.Descriptor.ofMetadata (Script.parse source).metadata).yaml =
              .ok after.files) ∨
        (options.descriptor = false ∧ prepared.descriptorFile = none ∧ after.files = files)) := by
  obtain ⟨compiled, first, hc, h⟩ := Action.bind_eq_ok.mp h
  obtain ⟨⟨⟩, second, hd, h⟩ := Action.bind_eq_ok.mp h
  obtain ⟨javaFile, third, hj, h⟩ := Action.bind_eq_ok.mp h
  obtain ⟨descriptorFile, last, hw, h⟩ := Action.bind_eq_ok.mp h
  cases h
  have made : (compile options world).1 = .ok compiled := by rw [hc]
  have unchanged : first.files = world.files := by
    have := compile_files options world
    rwa [hc] at this
  obtain ⟨source, hs, rfl⟩ := compile_eq_ok_iff.mp made
  obtain ⟨present, there⟩ := ensureDirectory_eq_ok hd
  rw [writeSource_eq] at hj
  obtain ⟨rfl, wrote⟩ := store_eq_ok hj
  rw [unchanged] at present there
  rw [there] at wrote
  refine ⟨source, third.files, hs, rfl, present, wrote, ?_⟩
  rcases whenever_eq_ok hw with ⟨wanted, file, rfl, hy⟩ | ⟨unwanted, rfl, rfl⟩
  · rw [writeDescriptor_eq] at hy
    obtain ⟨rfl, wrote⟩ := store_eq_ok hy
    exact .inl ⟨wanted, rfl, wrote⟩
  · exact .inr ⟨unwanted, rfl, rfl⟩

theorem prepare_compiled {options : Options} {world after : World} {prepared : Prepared}
    {source : Text} (read : world.files.read options.input = .ok source)
    (h : prepare options world = (.ok prepared, after)) :
    prepared.compiled = .ofSource options.input source := by
  obtain ⟨compiled, first, hc, h⟩ := Action.bind_eq_ok.mp h
  obtain ⟨_, _, _, h⟩ := Action.bind_eq_ok.mp h
  obtain ⟨_, _, _, h⟩ := Action.bind_eq_ok.mp h
  obtain ⟨_, _, _, h⟩ := Action.bind_eq_ok.mp h
  cases h
  have made : (compile options world).1 = .ok compiled := by rw [hc]
  rw [compile_eq_ok_iff.mpr ⟨source, read, rfl⟩] at made
  exact (Except.ok.inj made).symm

/-- What holds of a build whose files are prepared. -/
structure Ready (options : Options) (source : Text) (before after : FileSystem)
    (prepared : Prepared) : Prop where
  javaFile : prepared.javaFile =
    Path.join options.dir ((Script.parse source).metadata.name ++ ".java".toList)
  descriptorFile : prepared.descriptorFile =
    if options.descriptor then some (Path.join options.dir Plugin.Descriptor.fileName) else none
  content : ∀ output ∈ outputs options source, after.read output.1 = .ok output.2
  directory : before.pathExists options.dir = false →
    options.dir = [] ∨ after.isDirectory options.dir = true

theorem prepare_ready {options : Options} {world after : World} {prepared : Prepared}
    (h : prepare options world = (.ok prepared, after)) :
    ∃ source, world.files.read options.input = .ok source ∧
      Ready options source world.files after.files prepared := by
  obtain ⟨source, files, hs, hj, present, wrote, rest⟩ := prepare_eq_ok h
  have directory := FileSystem.ensureDirectory_ok present
  have java := FileSystem.read_of_write wrote
  have kept := FileSystem.write_changes wrote
  rw [hj] at java
  refine ⟨source, hs, ?_⟩
  rcases rest with ⟨wanted, hd, wrote⟩ | ⟨unwanted, hd, same⟩
  · -- The descriptor is written last, so the class has to survive it.
    have descriptor := FileSystem.read_of_write wrote
    have kept' := FileSystem.write_changes wrote
    have java' := kept'.read java (by simpa using class_ne_descriptor _ _ _)
    refine ⟨hj, by rw [hd, if_pos wanted], ?_, fun missing => ?_⟩
    · simp only [outputs, wanted, if_true, List.forall_mem_cons]
      exact ⟨java', descriptor, nofun⟩
    · exact (directory missing).imp_right fun there => kept'.isDirectory (kept.isDirectory there)
  · rw [same]
    refine ⟨hj, by rw [hd, if_neg (by simp [unwanted])], ?_, fun missing => ?_⟩
    · simp only [outputs, unwanted, Bool.false_eq_true, if_false, List.forall_mem_cons]
      exact ⟨java, nofun⟩
    · exact (directory missing).imp_right kept.isDirectory

/-- The current directory holds a script, and beside it an output directory with a directory in
it. -/
def scriptDirectory (source : Text) : FileSystem where
  current := ["home".toList]
  entries :=
    [(["home".toList], .directory),
      (["home".toList, "main.void".toList], .file ⟨Text.bytes source, false⟩),
      (["home".toList, "out".toList], .directory),
      (["home".toList, "out".toList, "sub".toList], .directory)]

end VoidScript.Build
