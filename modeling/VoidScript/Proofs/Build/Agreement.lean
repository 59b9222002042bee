import VoidScript.CommandLine.Compiler
import VoidScript.Proofs.Build.Records
import VoidScript.Proofs.CommandLine.Arguments

/-!
Printing a class and building a plugin agree. Both compile the script in the same way; printing
stops there, and a build without packaging adds its files and nothing else.

* `emit_of_read`, `emit_files`: what printing prints, and that it changes no file;
* `request_emitOnly`: the switch for printing decides, whatever else the arguments ask for;
* `run_delivered`: what a build without packaging has done when it succeeds.
-/

namespace VoidScript

namespace Build

open VoidScript.Path (destination Part parts)

/-! ## Building without packaging -/

/-- What a successful build without packaging leaves behind. -/
structure Delivered (options : Options) (source : Text) (before after : FileSystem)
    (artifacts : Artifacts) : Prop where
  javaFile : artifacts.javaFile =
    Path.join options.dir ((Script.parse source).metadata.name ++ ".java".toList)
  java : after.read artifacts.javaFile = .ok (Plugin.translate source)
  descriptorFile : artifacts.descriptorFile =
    if options.descriptor then some (Path.join options.dir "plugin.yml".toList) else none
  descriptor : options.descriptor = true →
    after.read (Path.join options.dir "plugin.yml".toList) =
      .ok (Plugin.Descriptor.ofMetadata (Script.parse source).metadata).yaml
  apart : destination before.current artifacts.javaFile ≠
    destination before.current (Path.join options.dir "plugin.yml".toList)
  /-- An output directory that was missing exists, with all directories on the way to it. -/
  directories : before.pathExists options.dir = false → ∀ front, front ≠ [] →
    front <+: parts options.dir →
      after.isDirectoryAt (front.foldl Part.step (before.start options.dir)) = true
  current : after.current = before.current
  /-- Elsewhere only directories on the way to the output directory are new. -/
  elsewhere : ∀ location, location ≠ destination before.current artifacts.javaFile →
    (options.descriptor = true →
      location ≠ destination before.current (Path.join options.dir "plugin.yml".toList)) →
    after.lookup location = before.lookup location ∨
      before.lookup location = none ∧ after.lookup location = some .directory ∧
        ∃ above ∈ Path.ancestors options.dir, location = destination before.current above
  /-- So what a path to another place gave is still given. -/
  kept : ∀ path text, before.read path = .ok text →
    destination before.current path ≠ destination before.current artifacts.javaFile →
    (options.descriptor = true → destination before.current path ≠
      destination before.current (Path.join options.dir "plugin.yml".toList)) →
    after.read path = .ok text

theorem Writes.elsewhere {options : Options} {source : Text} {before after : FileSystem}
    (writes : Writes options source before after) {location : Location}
    (h : location ∉ (outputs options source).map (destination before.current ·.1)) :
    after.lookup location = before.lookup location ∨
      before.lookup location = none ∧ after.lookup location = some .directory ∧
        ∃ above ∈ Path.ancestors options.dir, location = destination before.current above := by
  rcases FileSystem.Changes.elsewhere writes h with same | ⟨absent, new, made⟩
  · exact .inl same
  · obtain ⟨above, ha, rfl⟩ := List.mem_map.mp made
    exact .inr ⟨absent, new, above, ha, rfl⟩

theorem run_delivered {machine : Machine} {options : Options} (h : options.package = false)
    {world after : World} {artifacts : Artifacts}
    (success : run machine options world = (.ok artifacts, after)) :
    ∃ source, world.files.read options.input = .ok source ∧
      Delivered options source world.files after.files artifacts := by
  rw [run_eq] at success
  obtain ⟨prepared, middle, hp, hf⟩ := Action.bind_eq_ok.mp success
  rw [finish_of_not_package h] at hf
  cases hf
  obtain ⟨source, hs, ready⟩ := prepare_ready hp
  have writes := prepare_writes hs
  rw [hp] at writes
  have java := ready.content _ (List.mem_cons_self ..)
  rw [← ready.javaFile] at java
  have other : ∀ location, location ≠ destination world.files.current prepared.javaFile →
      (options.descriptor = true → location ≠ destination world.files.current
        (Path.join options.dir Plugin.Descriptor.fileName)) →
      location ∉ (outputs options source).map (destination world.files.current ·.1) := by
    intro location other_java other_descriptor target
    rcases mem_outputs_location target with same | ⟨wanted, same⟩
    · exact other_java (by rw [ready.javaFile, same])
    · exact other_descriptor wanted same
  refine ⟨source, hs, ready.javaFile, java, ready.descriptorFile, ?_, ?_, ?_, writes.current,
    ?_, ?_⟩
  · intro wanted
    exact ready.content _ (descriptor_mem_outputs wanted source)
  · rw [ready.javaFile]
    exact class_ne_descriptor _ _ _
  · intro missing front proper hf
    rcases ready.directory missing with empty | there
    · rw [empty] at hf
      exact absurd (List.prefix_nil.mp hf) proper
    · rw [← writes.start]
      exact FileSystem.isDirectoryAt_of_isDirectory there hf
  · intro location other_java other_descriptor
    exact writes.elsewhere (other location other_java other_descriptor)
  · intro path text before other_java other_descriptor
    exact writes.read before (other _ other_java other_descriptor)

/-- A script that cannot be compiled cannot be built, for the same reason. -/
theorem run_of_compile_error {options : Options} {world : World} {failure : Failure}
    (h : (compile options world).1 = .error failure) (machine : Machine) :
    run machine options world = (.error failure, world) := by
  rw [run, Action.bind_apply, compile_error_world h]

end Build

namespace CommandLine.Compiler

/-! ## Printing -/

theorem emit_files (options : Build.Options) (world : World) :
    (emit options world).files = world.files := by
  rw [← Build.compile_files options world]
  unfold emit
  split <;> rename_i h <;> rw [h]

theorem emit_log (options : Build.Options) (world : World) :
    (emit options world).log = (Build.compile options world).2.log := by
  unfold emit
  split <;> rename_i h <;> rw [h]

theorem emit_of_read {options : Build.Options} {world : World} {source : Text}
    (h : world.files.read options.input = .ok source) :
    (emit options world).exit = 0 ∧ (emit options world).output = Plugin.translate source ∧
      (emit options world).errors = [] := by
  have made : (Build.compile options world).1 = .ok (.ofSource options.input source) :=
    Build.compile_eq_ok_iff.mpr ⟨source, h, rfl⟩
  unfold emit
  split
  · rename_i compiled after hc
    rw [hc] at made
    obtain rfl := Except.ok.inj made
    exact ⟨rfl, rfl, rfl⟩
  · rename_i failure after hc
    rw [hc] at made
    cases made

/-- The switch decides, whatever else the arguments ask for. -/
theorem request_emitOnly {environment : Environment} {argv : List Text} {request : Request}
    (h : Compiler.request environment argv = .ok request)
    (given : Switch.emitOnly.label ∈ argv.takeWhile (· ≠ ['-', '-'])) :
    request.emitOnly = true := by
  obtain ⟨arguments, ha, h⟩ := bind_eq_ok.mp h
  obtain ⟨javac, -, h⟩ := bind_eq_ok.mp h
  obtain ⟨jar, -, h⟩ := bind_eq_ok.mp h
  have on := Arguments.mem_switches_of_label ha given
  rw [← Except.ok.inj h]
  exact List.contains_iff_mem.mpr on

/-- What a command leaves behind that only prints. -/
structure Emitted (environment : Environment) (argv : List Text) (files : FileSystem)
    (answer : Answer) : Prop where
  unchanged : answer.files = files
  log : ∀ event ∈ answer.log, event.component ≠ .toolchain
  output : ∀ request source, Compiler.request environment argv = .ok request →
    files.read request.options.input = .ok source →
    answer.exit = 0 ∧ answer.output = Plugin.translate source ∧ answer.errors = []

theorem emitted_of_stop {environment : Environment} {argv : List Text} {files : FileSystem}
    {stop : Stop} (h : Compiler.request environment argv = .error stop) {answer : Answer}
    (unchanged : answer.files = files) (log : answer.log = []) :
    Emitted environment argv files answer := by
  refine ⟨unchanged, by simp [log], fun request source hr => ?_⟩
  rw [h] at hr
  cases hr

theorem run_emitted {environment : Environment} {argv : List Text}
    (given : Switch.emitOnly.label ∈ argv.takeWhile (· ≠ ['-', '-'])) (files : FileSystem) :
    ∃ answer, Emitted environment argv files answer ∧
      ∀ machine, run machine environment argv files = answer := by
  unfold run
  cases h : Compiler.request environment argv with
  | error stop =>
    cases stop with
    | help | version | misused => exact ⟨_, emitted_of_stop h rfl rfl, fun _ => rfl⟩
  | ok request =>
    have only := request_emitOnly h given
    refine ⟨{ emit request.options (.ofFiles files) with
      log := (emit request.options (.ofFiles files)).log.filter request.filter.shows }, ?_, ?_⟩
    · refine ⟨emit_files request.options (.ofFiles files), ?_, ?_⟩
      · intro event he
        have recorded := (List.mem_filter.mp he).1
        rw [emit_log] at recorded
        exact (Build.compile_log recorded).resolve_left nofun
      · intro other source hr hs
        rw [h] at hr
        cases hr
        exact emit_of_read hs
    · intro machine
      simp only [perform, only, if_true]

end CommandLine.Compiler

namespace Build

open CommandLine (Compiler.run Compiler.Emitted Switch)

/-- Printing and building agree. Compiling changes no file, uses no tool and gives the translation
of the script; the switch for printing prints just that, on every machine alike; a build without
packaging that succeeds has written the same text, beside the descriptor if it is wanted, and
nothing else; and what stops the compiling stops the build. -/
theorem emission_agrees_with_build (machine : Machine) (options : Options) (world : World) :
    (compile options world).2.files = world.files ∧
    (∀ event ∈ (compile options world).2.log,
      event ∈ world.log ∨ event.component ≠ .toolchain) ∧
    (∀ source, world.files.read options.input = .ok source →
      ∃ compiled, (compile options world).1 = .ok compiled ∧
        compiled.plugin.render = Plugin.translate source ∧
        compiled.metadata = (Script.parse source).metadata) ∧
    (∀ environment argv, Switch.emitOnly.label ∈ argv.takeWhile (· ≠ ['-', '-']) →
      Compiler.Emitted environment argv world.files
        (Compiler.run machine environment argv world.files) ∧
      ∀ other, Compiler.run other environment argv world.files =
        Compiler.run machine environment argv world.files) ∧
    (∀ artifacts after, options.package = false →
      run machine options world = (.ok artifacts, after) →
      ∃ source, world.files.read options.input = .ok source ∧
        Delivered options source world.files after.files artifacts) ∧
    (∀ failure, (compile options world).1 = .error failure →
      run machine options world = (.error failure, world)) := by
  refine ⟨compile_files options world, fun event => compile_log, ?_, ?_, ?_, ?_⟩
  · intro source hs
    exact ⟨_, compile_eq_ok_iff.mpr ⟨source, hs, rfl⟩, rfl, rfl⟩
  · intro environment argv given
    obtain ⟨answer, emitted, same⟩ := CommandLine.Compiler.run_emitted given world.files
    rw [same machine]
    exact ⟨emitted, same⟩
  · intro artifacts after unpackaged success
    exact run_delivered unpackaged success
  · intro failure h
    exact run_of_compile_error h machine

/-- The name leads out of an output directory that is missing, whose path makes a detour through
another one that is missing; and a command asks for more than printing. -/
theorem emission_agrees_with_build_in_new_directory :
    let machine : Machine := ⟨[], fun _ _ _ files => ⟨.refused .notExecutable, [], files⟩⟩
    let source := "name: ../Greeter\nprint(hello)".toList
    let options : Options :=
      { outputDir := some "out/new/../deep".toList, package := false, descriptor := true }
    let world := World.ofFiles (scriptDirectory source)
    let argv := ["--descriptor", "--strict", "--emit-only", "-oout"].map String.toList
    (∃ artifacts after, run machine options world = (.ok artifacts, after) ∧
      Delivered options source world.files after.files artifacts) ∧
    (Compiler.run machine ⟨none, none, none⟩ argv world.files).output =
      Plugin.translate source := by
  intro machine source options world argv
  have read : world.files.read "main.void".toList = .ok source := by decide +kernel
  have success : (run machine options world).1 =
      .ok ⟨"out/new/../deep/../Greeter.java".toList, some "out/new/../deep/plugin.yml".toList,
        "out/new/../deep/../Greeter.jar".toList, none⟩ := by
    decide +kernel
  obtain ⟨-, -, -, emission, building, -⟩ := emission_agrees_with_build machine options world
  refine ⟨⟨_, _, Prod.ext success rfl, ?_⟩, ?_⟩
  · obtain ⟨text, hr, delivered⟩ := building _ _ rfl (Prod.ext success rfl)
    obtain rfl : source = text := Except.ok.inj (read.symm.trans hr)
    exact delivered
  · have input : (CommandLine.Compiler.request ⟨none, none, none⟩ argv).map (·.options.input) =
        .ok "main.void".toList := by
      decide +kernel
    have emitted := (emission ⟨none, none, none⟩ argv (by decide +kernel)).1
    cases asked : CommandLine.Compiler.request ⟨none, none, none⟩ argv with
    | error stop =>
      rw [asked] at input
      cases input
    | ok request =>
      rw [asked] at input
      rw [← Except.ok.inj input] at read
      exact (emitted.output request source asked read).2.1

end Build

end VoidScript
