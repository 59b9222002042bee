import VoidScript.Proofs.Build.Failures

/-!
Packaging. Both tools have their turn once, the archiver after the compiler and whatever came of it;
what the compiler did reaches the archiver only through the files. The names that the tools are
given are those of the files that the build has written and reports.

* `runStep_log`: a step is attempted once, and warned of if it does not succeed;
* `runStep_outcome`: its outcome depends on the files alone;
* `build_packaged`: hence both steps of packaging;
* `packaging_attempts_both_steps`: packaging in whole builds, strict or not.
-/

namespace VoidScript

open Toolchain (Step Outcome Report)

/-- The steps that did not succeed, in their order. -/
def Toolchain.Report.failures (report : Report) : List (Step × Outcome) :=
  [(.compile, report.compile), (.archive, report.archive)].filter (!·.2.isSuccess)

namespace Build

/-! ## Attempts and warnings -/

/-- The steps that were attempted: their tool was started, or it was not found. -/
def attempts (log : List Event) : List Step :=
  log.filterMap fun
    | .skipped step _ | .started step _ _ => some step
    | _ => none

/-- The steps that were warned of. A warning of another kind counts, and has no step. -/
def warnings (log : List Event) : List (Option (Step × Outcome)) :=
  (log.filter (·.level = .warn)).map fun
    | .skipped step outcome | .failed step outcome => some (step, outcome)
    | _ => none

theorem attempts_append (first second : List Event) :
    attempts (first ++ second) = attempts first ++ attempts second := List.filterMap_append

theorem warnings_append (first second : List Event) :
    warnings (first ++ second) = warnings first ++ warnings second := by
  simp only [warnings, List.filter_append, List.map_append]

theorem Quiet.attempts {before after : World} (quiet : Quiet before after) :
    attempts after.log = attempts before.log := by
  obtain ⟨events, hl, tools⟩ := quiet.log
  have none : Build.attempts events = [] := by
    apply List.filterMap_eq_nil_iff.mpr
    intro event he
    have other := (tools event he).1
    cases event <;> first | rfl | exact absurd rfl other
  rw [hl, attempts_append, none, List.append_nil]

theorem Quiet.warnings {before after : World} (quiet : Quiet before after) :
    warnings after.log = warnings before.log := by
  obtain ⟨events, hl, tools⟩ := quiet.log
  have none : events.filter (·.level = .warn) = [] := by
    apply List.filter_eq_nil_iff.mpr
    intro event he
    simpa using (tools event he).2
  rw [hl, warnings_append, Build.warnings, Build.warnings, none, List.map_nil, List.append_nil]

/-! ## One step -/

/-- What is warned of after a step. -/
def warned (step : Step) (outcome : Outcome) : List (Option (Step × Outcome)) :=
  if outcome.isSuccess then [] else [some (step, outcome)]

theorem runStep_log (machine : Machine) (step : Step) (program : Path) (args : List Text)
    (dir : Path) (world : World) :
    ∃ events,
      (Toolchain.runStep machine step program args dir world).2.log = world.log ++ events ∧
      attempts events = [step] ∧
      warnings events =
        warned step (Toolchain.runStep machine step program args dir world).1 := by
  unfold Toolchain.runStep
  split
  · exact ⟨_, rfl, rfl, rfl⟩
  · refine ⟨_, rfl, ?_⟩
    dsimp only
    -- A tool that was started is warned of by its outcome only.
    split
    · rename_i success
      refine ⟨rfl, ?_⟩
      rw [warned, if_pos success]
      rfl
    · rename_i failure
      refine ⟨rfl, ?_⟩
      rw [warned, if_neg failure]
      rfl

theorem runStep_outcome {machine : Machine} {step : Step} {program : Path} {args : List Text}
    {dir : Path} {world other : World} (h : world.files = other.files) :
    (Toolchain.runStep machine step program args dir world).1 =
      (Toolchain.runStep machine step program args dir other).1 := by
  unfold Toolchain.runStep
  rw [h]
  split <;> rfl

/-! ## Both steps -/

/-- The compiler's turn. -/
abbrev compileStep (machine : Machine) (options : Options) (args : List Text) (world : World) :
    Outcome × World :=
  Toolchain.runStep machine .compile options.javac args options.dir world

/-- The archiver's turn. -/
abbrev archiveStep (machine : Machine) (options : Options) (args : List Text) (world : World) :
    Outcome × World :=
  Toolchain.runStep machine .archive options.jar args options.dir world

/-- Both tools had their turn, with these arguments. -/
structure Packaged (machine : Machine) (options : Options) (compileArgs archiveArgs : List Text)
    (start after : World) (report : Report) : Prop where
  compile : report.compile = (compileStep machine options compileArgs start).1
  /-- Of what the compiler did, only the files matter to the archiver. -/
  archive : ∀ world : World,
    world.files = (compileStep machine options compileArgs start).2.files →
    report.archive = (archiveStep machine options archiveArgs world).1
  last : after = (archiveStep machine options archiveArgs
    (compileStep machine options compileArgs start).2).2
  attempts : attempts after.log = attempts start.log ++ [.compile, .archive]
  warnings : warnings after.log = warnings start.log ++ report.failures.map some

/-- The arguments name the files of the build: all are in the output directory and have the name of
the class. -/
structure Named (options : Options) (className : Text) (compileArgs archiveArgs : List Text)
    (artifacts : Artifacts) : Prop where
  javaFile : compileArgs.getLast?.map (Path.join options.dir) = some artifacts.javaFile
  jarFile : archiveArgs[1]?.map (Path.join options.dir) = some artifacts.jarFile
  source : compileArgs.getLast? = some (className ++ ".java".toList)
  archive : archiveArgs[1]? = some (className ++ ".jar".toList)
  classFile : archiveArgs[2]? = some (className ++ ".class".toList)
  extra : archiveArgs.drop 3 =
    if artifacts.descriptorFile.isSome then ["plugin.yml".toList] else []
  descriptorFile : ∀ file, artifacts.descriptorFile = some file →
    file = Path.join options.dir "plugin.yml".toList

theorem failures_warned (report : Report) :
    report.failures.map some = warned .compile report.compile ++ warned .archive report.archive := by
  unfold Report.failures warned
  cases hc : report.compile.isSuccess <;> cases ha : report.archive.isSuccess <;> simp [hc, ha]

theorem build_packaged (machine : Machine) (options : Options) (className : Text)
    (extraFiles : List Text) (start : World) :
    let toolchain : Toolchain := ⟨options.javac, options.jar, options.classpath⟩
    let built := toolchain.build machine options.dir className extraFiles start
    Packaged machine options (toolchain.compileArgs (Toolchain.sourceFile className))
      (Toolchain.archiveArgs className extraFiles) start built.2 built.1 := by
  intro toolchain built
  have first := runStep_log machine .compile options.javac
    (toolchain.compileArgs (Toolchain.sourceFile className)) options.dir start
  have second := runStep_log machine .archive options.jar
    (Toolchain.archiveArgs className extraFiles) options.dir
    (compileStep machine options (toolchain.compileArgs (Toolchain.sourceFile className)) start).2
  obtain ⟨compiling, hc, compiled, compileWarned⟩ := first
  obtain ⟨archiving, ha, archived, archiveWarned⟩ := second
  have log : built.2.log = start.log ++ (compiling ++ archiving) := by
    rw [← List.append_assoc, ← hc]
    exact ha
  refine ⟨rfl, fun world same => (runStep_outcome same).symm, rfl, ?_, ?_⟩
  · rw [log, attempts_append, attempts_append, compiled, archived]
    rfl
  · rw [log, warnings_append, warnings_append, compileWarned, archiveWarned, failures_warned]
    rfl

theorem compileArgs_getLast? (toolchain : Toolchain) (sourceFile : Text) :
    (toolchain.compileArgs sourceFile).getLast? = some sourceFile := List.getLast?_concat

/-- What is extra in the archive is decided by the descriptor that was written. -/
theorem named {options : Options} {source : Text} {before after : FileSystem}
    {prepared : Prepared} (ready : Ready options source before after prepared)
    (toolchain : Toolchain) (report : Option Report) :
    let className := (Script.parse source).metadata.name
    let extraFiles := if prepared.descriptorFile.isSome then [Plugin.Descriptor.fileName] else []
    Named options className (toolchain.compileArgs (Toolchain.sourceFile className))
      (Toolchain.archiveArgs className extraFiles)
      ⟨prepared.javaFile, prepared.descriptorFile,
        Path.join options.dir (Toolchain.archiveFile className), report⟩ := by
  intro className extraFiles
  have last := compileArgs_getLast? toolchain (Toolchain.sourceFile className)
  refine ⟨?_, rfl, last, rfl, rfl, rfl, ?_⟩
  · rw [last, ready.javaFile]
    rfl
  · intro file present
    change prepared.descriptorFile = some file at present
    rw [ready.descriptorFile] at present
    split at present
    · exact (Option.some.inj present).symm
    · cases present

/-! ## Whole builds -/

theorem finish_of_package {options : Options} (h : options.package = true) (machine : Machine)
    (prepared : Prepared) (world : World) :
    let className := prepared.compiled.plugin.name
    let built := (⟨options.javac, options.jar, options.classpath⟩ : Toolchain).build machine
      options.dir className
      (if prepared.descriptorFile.isSome then [Plugin.Descriptor.fileName] else []) world
    finish machine options prepared world =
      judge options.strict ⟨prepared.javaFile, prepared.descriptorFile,
        Path.join options.dir (Toolchain.archiveFile className), some built.1⟩ built.2 := by
  rw [finish, h]
  rfl

/-- A build gets as far as packaging unless it fails by something else than a tool. -/
theorem prepare_of_reached {machine : Machine} {options : Options} {world : World}
    (reached : ∀ failure, (run machine options world).1 = .error failure →
      ∃ step outcome, failure = .toolchain step outcome) :
    ∃ prepared start, prepare options world = (.ok prepared, start) := by
  cases h : prepare options world with
  | mk result start =>
    cases result with
    | ok prepared => exact ⟨prepared, start, rfl⟩
    | error failure =>
      have failed : run machine options world = (.error failure, start) := by
        rw [run_eq, Action.bind_apply, h]
      obtain ⟨step, outcome, tool⟩ := reached failure (by rw [failed])
      exact absurd tool ((prepare_stopped h).ne_toolchain step outcome)

/-- A build that is to be packaged and reaches packaging has its files written by then, with no tool
involved. Then the compiler and after it the archiver are attempted, once each, whatever the outcomes
are, with arguments that name the files of the build; every step that does not succeed is warned of
once. What the build returns is its report, judged. -/
theorem packaging_attempts_both_steps {machine : Machine} {options : Options} {world : World}
    (wanted : options.package = true)
    (reached : ∀ failure, (run machine options world).1 = .error failure →
      ∃ step outcome, failure = .toolchain step outcome) :
    ∃ source start after compileArgs archiveArgs artifacts report,
      world.files.read options.input = .ok source ∧
      (∀ output ∈ outputs options source, start.files.read output.1 = .ok output.2) ∧
      Quiet world start ∧
      run machine options world = judge options.strict artifacts after ∧
      (run machine options world).2 = after ∧
      artifacts.report = some report ∧
      attempts after.log = attempts world.log ++ [.compile, .archive] ∧
      warnings after.log = warnings world.log ++ report.failures.map some ∧
      Packaged machine options compileArgs archiveArgs start after report ∧
      Named options (Script.parse source).metadata.name compileArgs archiveArgs artifacts := by
  obtain ⟨prepared, start, ready⟩ := prepare_of_reached reached
  obtain ⟨source, read, written⟩ := prepare_ready ready
  have quiet := prepare_quiet options world
  rw [ready] at quiet
  have name : prepared.compiled.plugin.name = (Script.parse source).metadata.name := by
    rw [prepare_compiled read ready]
    rfl
  have returned : run machine options world = finish machine options prepared start := by
    rw [run_eq, Action.bind_apply, ready]
  rw [finish_of_package wanted, name] at returned
  have packaged := build_packaged machine options (Script.parse source).metadata.name
    (if prepared.descriptorFile.isSome then [Plugin.Descriptor.fileName] else []) start
  refine ⟨source, start, _, _, _, _, _, read, written.content, quiet, returned, ?_, rfl, ?_, ?_,
    packaged, named written _ _⟩
  · rw [returned, judge_world]
  · rw [packaged.attempts, quiet.attempts]
  · rw [packaged.warnings, quiet.warnings]

/-- The compiler is killed, but not before it has put an archiver where there was none; which is
found, since only the files count. -/
theorem packaging_attempts_both_steps_after_killed_compiler :
    let tool : Entry := .file ⟨[], true⟩
    let machine : Machine := ⟨["/bin".toList], fun program _ _ files =>
      if program.getLast? = some "javac".toList then
        ⟨.killed, [], files.put ["bin".toList, "jar".toList] tool⟩
      else ⟨.exited 0, [], files⟩⟩
    let files := ((scriptDirectory "name: sub/A".toList).put ["bin".toList] .directory).put
      ["bin".toList, "javac".toList] tool
    let options : Options := { outputDir := some "out".toList, descriptor := true }
    let ran := run machine options (.ofFiles files)
    files.lookup ["bin".toList, "jar".toList] = none ∧
    ran.1 = .ok ⟨"out/sub/A.java".toList, some "out/plugin.yml".toList, "out/sub/A.jar".toList,
      some ⟨.failed none, .succeeded⟩⟩ ∧
    attempts ran.2.log = [.compile, .archive] ∧
    warnings ran.2.log = [some (.compile, .failed none)] := by
  intro tool machine files options ran
  have absent : files.lookup ["bin".toList, "jar".toList] = none := by decide +kernel
  have returned : ran.1 = .ok ⟨"out/sub/A.java".toList, some "out/plugin.yml".toList,
      "out/sub/A.jar".toList, some ⟨.failed none, .succeeded⟩⟩ := by
    decide +kernel
  have reached : ∀ failure, ran.1 = .error failure →
      ∃ step outcome, failure = .toolchain step outcome := by
    intro failure failed
    rw [returned] at failed
    cases failed
  obtain ⟨source, start, after, compileArgs, archiveArgs, artifacts, report, -, -, -, judged, left,
    reported, attempted, warned, -, -⟩ := packaging_attempts_both_steps rfl reached
  have same : report = ⟨.failed none, .succeeded⟩ := by
    have lenient : ran.1 = .ok artifacts := congrArg Prod.fst judged
    obtain rfl := Except.ok.inj (lenient.symm.trans returned)
    exact (Option.some.inj reported).symm
  have last : ran.2 = after := left
  rw [same] at warned
  refine ⟨absent, returned, ?_, ?_⟩
  · rw [last, attempted]
    rfl
  · rw [last, warned]
    rfl

end Build

end VoidScript
