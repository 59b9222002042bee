import VoidScript.Proofs.Build.Records

/-!
What a failing build leaves behind. Until it is packaged a build can fail at four places: reading its
script, making its output directory, writing its class and writing its descriptor. Each place is
one constructor of `Stopped`, with the files as they are then; all bounds follow from that.

* `prepare_stopped`: a build that does not get as far as packaging stops at one of these places;
* `Stopped.contained`: what an operation on files that fails has let happen before;
* `finish_eq_error`: behind these places only the tools can make a build fail;
* `run_failure_cases`: hence all that a build can fail with;
* `failure_effects_bounded`: what follows for whole builds.
-/

namespace VoidScript.Build

open VoidScript.Path (destination)
open FileSystem (Changes)

/-- The file of the class. -/
abbrev classFile (options : Options) (source : Text) : Path :=
  Path.join options.dir ((Script.parse source).metadata.name ++ ".java".toList)

abbrev descriptorFile (options : Options) : Path := Path.join options.dir "plugin.yml".toList

abbrev descriptorText (source : Text) : Text :=
  (Plugin.Descriptor.ofMetadata (Script.parse source).metadata).yaml

/-! ## Where a build stops -/

/-- Where a build stops before it is packaged: why, and with which files. -/
inductive Stopped (options : Options) (before : FileSystem) : Failure → FileSystem → Prop
  | source {failure : Failure} (unread : readSource before options.input = .error failure) :
      Stopped options before failure before
  | directory {fault : Fault} (refused : (before.ensureDirectory options.dir).1 = .error fault) :
      Stopped options before (.io fault) (before.ensureDirectory options.dir).2
  | java {source : Text} {fault : Fault}
      (refused : (before.ensureDirectory options.dir).2.write (classFile options source)
        (Plugin.translate source) = .error fault) :
      Stopped options before (.io fault) (before.ensureDirectory options.dir).2
  | descriptor {source : Text} {fault : Fault} {files : FileSystem}
      (read : before.read options.input = .ok source) (wanted : options.descriptor = true)
      (wrote : (before.ensureDirectory options.dir).2.write (classFile options source)
        (Plugin.translate source) = .ok files)
      (refused : files.write (descriptorFile options) (descriptorText source) = .error fault) :
      Stopped options before (.io fault) files

theorem readSource_eq_error {files : FileSystem} {input : Path} {failure : Failure}
    (h : readSource files input = .error failure) :
    failure = .fileNotFound input ∨ ∃ fault, failure = .io fault := by
  unfold readSource at h
  split at h
  · cases hr : files.read input with
    | ok source =>
      rw [hr] at h
      cases h
    | error fault =>
      rw [hr] at h
      exact .inr ⟨fault, (Except.error.inj h).symm⟩
  · exact .inl (Except.error.inj h).symm

theorem ensureDirectory_eq_error {dir : Path} {world after : World} {failure : Failure}
    (h : ensureDirectory dir world = (.error failure, after)) :
    ∃ fault, failure = .io fault ∧ (world.files.ensureDirectory dir).1 = .error fault ∧
      after.files = (world.files.ensureDirectory dir).2 := by
  unfold ensureDirectory at h
  cases hd : world.files.ensureDirectory dir with
  | mk result files =>
    rw [hd] at h
    cases result with
    | ok => cases h
    | error fault =>
      cases h
      exact ⟨fault, rfl, rfl, rfl⟩

theorem store_eq_error {file : Path} {content : Text} {event : Event} {world after : World}
    {failure : Failure} (h : store file content event world = (.error failure, after)) :
    ∃ fault, failure = .io fault ∧ world.files.write file content = .error fault ∧
      after = world := by
  rcases Action.bind_eq_error.mp h with h | ⟨_, _, _, h⟩
  · unfold writeFile at h
    split at h
    · cases h
    · rename_i fault refused
      cases h
      exact ⟨fault, rfl, refused, rfl⟩
  · cases h

theorem whenever_eq_error {wanted : Bool} {action : Action α} {world after : World}
    {failure : Failure} (h : whenever wanted action world = (.error failure, after)) :
    wanted = true ∧ action world = (.error failure, after) := by
  cases wanted with
  | false => cases h
  | true =>
    rcases Action.bind_eq_error.mp h with h | ⟨_, _, _, h⟩
    · exact ⟨rfl, h⟩
    · cases h

theorem prepare_stopped {options : Options} {world after : World} {failure : Failure}
    (h : prepare options world = (.error failure, after)) :
    Stopped options world.files failure after.files := by
  rcases Action.bind_eq_error.mp h with h | ⟨compiled, first, hc, h⟩
  · have failed : (compile options world).1 = .error failure := by rw [h]
    have unread := compile_eq_error_iff.mp failed
    rw [compile_error_world failed] at h
    obtain ⟨-, rfl⟩ := Prod.mk.inj h
    exact .source unread
  have made : (compile options world).1 = .ok compiled := by rw [hc]
  obtain ⟨source, read, rfl⟩ := compile_eq_ok_iff.mp made
  have unchanged : first.files = world.files := by
    have := compile_files options world
    rwa [hc] at this
  rcases Action.bind_eq_error.mp h with h | ⟨_, second, hd, h⟩
  · obtain ⟨fault, rfl, refused, left⟩ := ensureDirectory_eq_error h
    rw [unchanged] at refused left
    rw [left]
    exact .directory refused
  obtain ⟨-, there⟩ := ensureDirectory_eq_ok hd
  rw [unchanged] at there
  rcases Action.bind_eq_error.mp h with h | ⟨javaFile, third, hj, h⟩
  · rw [writeSource_eq] at h
    obtain ⟨fault, rfl, refused, rfl⟩ := store_eq_error h
    rw [there] at refused ⊢
    exact .java refused
  rw [writeSource_eq] at hj
  obtain ⟨-, wrote⟩ := store_eq_ok hj
  rw [there] at wrote
  rcases Action.bind_eq_error.mp h with h | ⟨_, _, _, h⟩
  · obtain ⟨wanted, h⟩ := whenever_eq_error h
    rw [writeDescriptor_eq] at h
    obtain ⟨fault, rfl, refused, rfl⟩ := store_eq_error h
    exact .descriptor read wanted wrote refused
  · cases h

/-- Before packaging, nothing can fail but finding the script and operations on files. -/
theorem Stopped.failure_cases {options : Options} {before after : FileSystem} {failure : Failure}
    (h : Stopped options before failure after) :
    failure = .fileNotFound options.input ∨ ∃ fault, failure = .io fault := by
  cases h with
  | source unread => exact readSource_eq_error unread
  | directory | java | descriptor => exact .inr ⟨_, rfl⟩

/-- Nothing before packaging fails as a tool does. -/
theorem Stopped.ne_toolchain {options : Options} {before after : FileSystem} {failure : Failure}
    (h : Stopped options before failure after) (step : Toolchain.Step)
    (outcome : Toolchain.Outcome) : failure ≠ .toolchain step outcome := by
  rintro rfl
  rcases h.failure_cases with missing | ⟨fault, failed⟩
  · cases missing
  · cases failed

/-- Only a script can be not found, and then nothing has happened. -/
theorem Stopped.of_fileNotFound {options : Options} {before after : FileSystem} {path : Path}
    (h : Stopped options before (.fileNotFound path) after) :
    readSource before options.input = .error (.fileNotFound path) := by
  cases h with
  | source unread => exact unread

/-! ## What has happened by then -/

/-- A new directory on the way to the output directory. -/
def MadeOnTheWay (options : Options) (before after : FileSystem) (location : Location) : Prop :=
  before.lookup location = none ∧ after.lookup location = some .directory ∧
    ∃ above ∈ Path.ancestors options.dir, location = destination before.current above

/-- The class was written in full, and writing the descriptor is what failed. -/
structure DescriptorRefused (options : Options) (source : Text) (after : FileSystem)
    (fault : Fault) : Prop where
  wanted : options.descriptor = true
  java : after.read (classFile options source) = .ok (Plugin.translate source)
  refused : after.write (descriptorFile options) (descriptorText source) = .error fault

/-- All that can be different after an operation on files failed. -/
structure Contained (options : Options) (before after : FileSystem) (fault : Fault) : Prop where
  current : after.current = before.current
  entries : ∀ location, after.lookup location = before.lookup location ∨
    MadeOnTheWay options before after location ∨
    ∃ source, before.read options.input = .ok source ∧
      location = destination before.current (classFile options source) ∧
      DescriptorRefused options source after fault
  /-- The place of the descriptor is as it was, unless the way to the output directory leads through
  it. -/
  descriptor : ∀ location, location = destination before.current (descriptorFile options) →
    after.lookup location = before.lookup location ∨ MadeOnTheWay options before after location

theorem madeOnTheWay_of_changes {options : Options} {before after : FileSystem}
    {written : List Location}
    (changes : Changes ((Path.ancestors options.dir).map (destination before.current)) written
      before after) {location : Location} (h : location ∉ written) :
    after.lookup location = before.lookup location ∨
      MadeOnTheWay options before after location := by
  rcases changes.elsewhere h with same | ⟨absent, new, made⟩
  · exact .inl same
  · obtain ⟨above, ha, rfl⟩ := List.mem_map.mp made
    exact .inr ⟨absent, new, above, ha, rfl⟩

/-- Where nothing is written, directories are all that can be new. -/
theorem contained_of_directories {options : Options} {before after : FileSystem}
    (changes : Changes ((Path.ancestors options.dir).map (destination before.current)) [] before
      after) (fault : Fault) : Contained options before after fault where
  current := changes.current
  entries _ := (madeOnTheWay_of_changes changes List.not_mem_nil).imp_right .inl
  descriptor _ _ := madeOnTheWay_of_changes changes List.not_mem_nil

theorem Stopped.contained {options : Options} {before after : FileSystem} {fault : Fault}
    (h : Stopped options before (.io fault) after) : Contained options before after fault := by
  have directories := FileSystem.ensureDirectory_changes before options.dir
  cases h with
  | source unread => exact contained_of_directories (.refl before) fault
  | directory | java => exact contained_of_directories directories fault
  | @descriptor source _ _ read wanted wrote refused =>
    have written := FileSystem.write_changes wrote
    rw [directories.current] at written
    have changes := (directories.mono (List.Subset.refl _) (List.nil_subset _)).trans
      (written.mono (List.nil_subset _) (List.Subset.refl _))
    have java := FileSystem.read_of_write wrote
    refine ⟨changes.current, ?_, ?_⟩
    · intro location
      by_cases own : location = destination before.current (classFile options source)
      · exact .inr (.inr ⟨source, read, own, wanted, java, refused⟩)
      · have other : location ∉ [destination before.current (classFile options source)] := by
          simpa using own
        exact (madeOnTheWay_of_changes changes other).imp_right .inl
    · -- The descriptor is never at the place of the class.
      rintro location rfl
      apply madeOnTheWay_of_changes changes
      rw [List.mem_singleton]
      exact (class_ne_descriptor before.current options.dir _).symm

/-! ## Failing tools -/

/-- When the files are prepared, only a strict build can fail, and only after both tools had their
turn. -/
theorem finish_eq_error {machine : Machine} {options : Options} {prepared : Prepared}
    {world after : World} {failure : Failure}
    (h : finish machine options prepared world = (.error failure, after)) :
    options.package = true ∧ options.strict = true ∧
      ∃ report step outcome,
        package machine options prepared.compiled.plugin.name prepared.descriptorFile.isSome
          world = (.ok report, after) ∧
        report.failure? = some (step, outcome) ∧ failure = .toolchain step outcome := by
  rcases Action.bind_eq_error.mp h with h | ⟨report, middle, hr, h⟩
  · obtain ⟨-, h⟩ := whenever_eq_error h
    cases h
  unfold judge at h
  split at h
  · rename_i step outcome strict failed
    cases h
    rcases whenever_eq_ok hr with ⟨wanted, value, rfl, packaged⟩ | ⟨-, rfl, -⟩
    · exact ⟨wanted, strict, value, step, outcome, packaged, failed, rfl⟩
    · cases failed
  · cases h

/-- A build fails because its script is not found, an operation on files failed, or a tool did. It
never fails in putting the text of the class or of the descriptor together. -/
theorem run_failure_cases {machine : Machine} {options : Options} {world after : World}
    {failure : Failure} (h : run machine options world = (.error failure, after)) :
    failure = .fileNotFound options.input ∨ (∃ fault, failure = .io fault) ∨
      ∃ step outcome, failure = .toolchain step outcome := by
  rw [run_eq] at h
  rcases Action.bind_eq_error.mp h with stopped | ⟨prepared, start, -, failed⟩
  · rcases (prepare_stopped stopped).failure_cases with missing | fault
    · exact .inl missing
    · exact .inr (.inl fault)
  · obtain ⟨-, -, _, step, outcome, -, -, rfl⟩ := finish_eq_error failed
    exact .inr (.inr ⟨step, outcome, rfl⟩)

theorem prepare_of_unread {options : Options} {world : World} {cause : Failure}
    (h : readSource world.files options.input = .error cause) :
    prepare options world = (.error cause, world) := by
  rw [prepare, Action.bind_apply, compile_error_world (compile_eq_error_iff.mpr h)]

/-- What a failing build has done. A script that is not found or cannot be read stops it before it does
anything. A failing operation on files, wherever it stands, comes before any tool; then the only new
things are directories on the way to the output directory and, if it was the descriptor that could
not be written, the class. A tool is to blame only in a build whose files were all written. -/
theorem failure_effects_bounded {machine : Machine} {options : Options} {world after : World}
    {failure : Failure} (h : run machine options world = (.error failure, after)) :
    (∀ path, failure = .fileNotFound path → after = world) ∧
    (∀ cause, readSource world.files options.input = .error cause →
      failure = cause ∧ after = world) ∧
    (∀ fault, failure = .io fault →
      Quiet world after ∧ Contained options world.files after.files fault ∧
      ∀ other : Machine, run other options world = (.error (.io fault), after)) ∧
    (∀ step outcome, failure = .toolchain step outcome →
      ∃ source start, world.files.read options.input = .ok source ∧ Quiet world start ∧
        start.files.read (classFile options source) = .ok (Plugin.translate source) ∧
        (options.descriptor = true →
          start.files.read (descriptorFile options) = .ok (descriptorText source)) ∧
        after = (package machine options (Script.parse source).metadata.name options.descriptor
          start).2) := by
  have unread : ∀ cause, readSource world.files options.input = .error cause →
      failure = cause ∧ after = world := by
    intro cause hc
    rw [run_eq, Action.bind_apply, prepare_of_unread hc] at h
    cases h
    exact ⟨rfl, rfl⟩
  rw [run_eq] at h
  rcases Action.bind_eq_error.mp h with stopped | ⟨prepared, start, ready, failed⟩
  · have place := prepare_stopped stopped
    have quiet := prepare_quiet options world
    rw [stopped] at quiet
    refine ⟨?_, unread, ?_, ?_⟩
    · rintro path rfl
      exact (unread _ place.of_fileNotFound).2
    · rintro fault rfl
      refine ⟨quiet, place.contained, fun other => ?_⟩
      rw [run_eq, Action.bind_apply, stopped]
    · rintro step outcome rfl
      exact absurd rfl (place.ne_toolchain step outcome)
  · obtain ⟨-, -, report, step, outcome, packaged, -, rfl⟩ := finish_eq_error failed
    refine ⟨nofun, unread, nofun, fun _ _ _ => ?_⟩
    obtain ⟨source, read, written⟩ := prepare_ready ready
    have quiet := prepare_quiet options world
    rw [ready] at quiet
    have name : prepared.compiled.plugin.name = (Script.parse source).metadata.name := by
      rw [prepare_compiled read ready]
      rfl
    have described : prepared.descriptorFile.isSome = options.descriptor := by
      rw [written.descriptorFile]
      cases options.descriptor <;> rfl
    refine ⟨source, start, read, quiet, written.content _ (List.mem_cons_self ..), ?_, ?_⟩
    · intro wanted
      exact written.content _ (descriptor_mem_outputs wanted source)
    · rw [name, described] at packaged
      rw [packaged]

/-- The name leads through a directory that is missing, so the class cannot be written. The output
directory is there by then, and nothing else. -/
theorem failure_effects_bounded_with_misplaced_class :
    let machine : Machine := ⟨[], fun _ _ _ files => ⟨.refused .notExecutable, [], files⟩⟩
    let options : Options := { outputDir := some "out/new".toList, descriptor := true }
    let world := World.ofFiles (scriptDirectory "name: missing/A".toList)
    let after := (run machine options world).2
    (run machine options world).1 = .error (.io .missing) ∧
    after.files.lookup (["home", "out", "new"].map String.toList) = some .directory ∧
    Quiet world after ∧ Contained options world.files after.files .missing := by
  intro machine options world after
  have failed : (run machine options world).1 = .error (.io .missing) := by decide +kernel
  have made : after.files.lookup (["home", "out", "new"].map String.toList) = some .directory := by
    decide +kernel
  have ran : run machine options world = (.error (.io .missing), after) := Prod.ext failed rfl
  obtain ⟨-, -, bounded, -⟩ := failure_effects_bounded ran
  obtain ⟨quiet, contained, -⟩ := bounded .missing rfl
  exact ⟨failed, made, quiet, contained⟩

/-- The place of the descriptor is not always left alone. Here the way to the output directory leads
through it and back, so a directory is made there, and then no descriptor can be written. -/
theorem directory_at_descriptor_place :
    let machine : Machine := ⟨[], fun _ _ _ files => ⟨.refused .notExecutable, [], files⟩⟩
    let options : Options :=
      { outputDir := some "plugin.yml/..".toList, package := false, descriptor := true }
    let world := World.ofFiles (scriptDirectory "name: A".toList)
    let location := destination world.files.current (descriptorFile options)
    let after := (run machine options world).2
    (run machine options world).1 = .error (.io .isDirectory) ∧
    world.files.lookup location = none ∧
    after.files.lookup location = some .directory ∧
    after.files.lookup location ≠ world.files.lookup location := by
  decide +kernel

end VoidScript.Build
