import VoidScript.Proofs.Build

/-!
Strict builds. Whether a build is strict is asked only when both tools have had their turn, so it
decides what the build returns and nothing that the build does.

* `failure?_eq_some_iff`: a report fails by the first of its steps that did not succeed;
* `run_cases`: a build judged in both ways;
* `strict_changes_only_verdict`: what follows for whole builds.
-/

namespace VoidScript

namespace Toolchain.Report

/-- The step is the first one that did not succeed, and this is its outcome. -/
inductive FirstFailure (report : Report) : Step → Outcome → Prop
  | compile (failed : report.compile.isSuccess = false) :
      FirstFailure report .compile report.compile
  | archive (done : report.compile.isSuccess = true) (failed : report.archive.isSuccess = false) :
      FirstFailure report .archive report.archive

theorem failure?_eq_some_iff {report : Report} {step : Step} {outcome : Outcome} :
    report.failure? = some (step, outcome) ↔ report.FirstFailure step outcome := by
  unfold failure?
  constructor
  · intro h
    split at h
    · rename_i failed
      cases h
      exact .compile (by simpa using failed)
    · rename_i done
      split at h
      · rename_i failed
        cases h
        exact .archive (by simpa using done) (by simpa using failed)
      · cases h
  · rintro (failed | ⟨done, failed⟩)
    · simp [failed]
    · simp [done, failed]

theorem failure?_eq_none_iff {report : Report} :
    report.failure? = none ↔ report.isSuccess = true := by
  unfold failure? isSuccess
  cases report.compile.isSuccess <;> cases report.archive.isSuccess <;> simp

end Toolchain.Report

namespace Build

open Toolchain (Step Report)

/-- The programs that were started, with their steps and arguments, in the order of the log. -/
def starts (world : World) : List (Step × Path × List Text) :=
  world.log.filterMap fun
    | .started step program args => some (step, program, args)
    | _ => none

/-- A build before it is judged. -/
def attempt (machine : Machine) (options : Options) : Action Artifacts := do
  produce machine options (← compile options)

theorem run_eq_attempt (machine : Machine) (options : Options) :
    run machine options = attempt machine options >>= judge options.strict := by
  simp only [run, attempt, bind_assoc]

/-- Nothing before the judgement depends on its strictness. -/
theorem attempt_strict (machine : Machine) (options : Options) (strict : Bool) :
    attempt machine { options with strict } = attempt machine options := rfl

/-- What a strict build returns where another one succeeds. -/
def verdict (artifacts : Artifacts) : Except Failure Artifacts :=
  match artifacts.report.bind (·.failure?) with
  | some (step, outcome) => .error (.toolchain step outcome)
  | none => .ok artifacts

theorem judge_lenient (artifacts : Artifacts) (world : World) :
    judge false artifacts world = (.ok artifacts, world) := rfl

theorem judge_strict (artifacts : Artifacts) (world : World) :
    judge true artifacts world = (verdict artifacts, world) := by
  unfold judge verdict
  cases artifacts.report.bind (·.failure?) <;> rfl

/-- A build fails in the same way whether or not it is strict, or its strictness decides between
its artifacts and the verdict on them. -/
theorem run_cases (machine : Machine) (options : Options) (world : World) :
    (∃ failure after, ∀ strict,
      run machine { options with strict } world = (.error failure, after)) ∨
    (∃ artifacts after,
      run machine { options with strict := false } world = (.ok artifacts, after) ∧
      run machine { options with strict := true } world = (verdict artifacts, after)) := by
  simp only [run_eq_attempt, attempt_strict, Action.bind_apply]
  cases attempted : attempt machine options world with
  | mk result after =>
    cases result with
    | error failure => exact .inl ⟨failure, after, fun _ => rfl⟩
    | ok artifacts =>
      exact .inr ⟨artifacts, after, judge_lenient artifacts after, judge_strict artifacts after⟩

theorem verdict_of_failure {artifacts : Artifacts} {report : Report}
    (reported : artifacts.report = some report) (failed : report.isSuccess = false) :
    ∃ step outcome, verdict artifacts = .error (.toolchain step outcome) ∧
      report.FirstFailure step outcome := by
  cases h : report.failure? with
  | none =>
    rw [Report.failure?_eq_none_iff.mp h] at failed
    cases failed
  | some first =>
    obtain ⟨step, outcome⟩ := first
    refine ⟨step, outcome, ?_, Report.failure?_eq_some_iff.mp h⟩
    simp [verdict, reported, h]

theorem verdict_of_success {artifacts : Artifacts}
    (h : ∀ report, artifacts.report = some report → report.isSuccess = true) :
    verdict artifacts = .ok artifacts := by
  cases reported : artifacts.report with
  | none => simp [verdict, reported]
  | some report => simp [verdict, reported, Report.failure?_eq_none_iff.mpr (h report reported)]

/-- Without packaging there is no report to judge. -/
theorem run_of_not_package {options : Options} (h : options.package = false) (machine : Machine)
    (strict : Bool) : run machine { options with strict } = run machine options := by
  have same : finish machine { options with strict } = finish machine options := by
    funext prepared world
    have unpackaged : ({ options with strict } : Options).package = false := h
    rw [finish_of_not_package unpackaged, finish_of_not_package h]
    rfl
  rw [run_eq, run_eq, same]
  rfl

/-- Strictness changes only what a build returns. Both ways start the same programs with the same
arguments and leave the same files, records and output. A failure that is not the tools' is the
same; where a tool did not succeed, the strict build fails with the first step that did not; and in
all other cases the artifacts are the same. Without packaging strictness has no influence. -/
theorem strict_changes_only_verdict (machine : Machine) (options : Options) (world : World) :
    let strict := run machine { options with strict := true } world
    let lenient := run machine { options with strict := false } world
    starts strict.2 = starts lenient.2 ∧
    strict.2.files = lenient.2.files ∧
    strict.2 = lenient.2 ∧
    (∀ failure, lenient.1 = .error failure → strict.1 = .error failure) ∧
    (∀ artifacts report, lenient.1 = .ok artifacts → artifacts.report = some report →
      report.isSuccess = false →
      ∃ step outcome, strict.1 = .error (.toolchain step outcome) ∧
        report.FirstFailure step outcome) ∧
    (∀ artifacts, lenient.1 = .ok artifacts →
      (∀ report, artifacts.report = some report → report.isSuccess = true) →
      strict.1 = .ok artifacts) ∧
    (options.package = false → strict = lenient) := by
  intro strict lenient
  have unpackaged : options.package = false → strict = lenient := by
    intro h
    change run machine { options with strict := true } world = _
    rw [run_of_not_package h, ← run_of_not_package h machine false]
  rcases run_cases machine options world with ⟨failure, after, both⟩ | ⟨artifacts, after, hl, hs⟩
  · have hs : strict = (.error failure, after) := both true
    have hl : lenient = (.error failure, after) := both false
    have same : strict = lenient := hs.trans hl.symm
    refine ⟨by rw [same], by rw [same], by rw [same], ?_, ?_, ?_, unpackaged⟩
    · intro cause h
      rw [same, h]
    · intro artifacts report h
      rw [hl] at h
      cases h
    · intro artifacts h
      rw [hl] at h
      cases h
  · have world : strict.2 = lenient.2 := by rw [show strict = _ from hs, show lenient = _ from hl]
    have returned : lenient.1 = .ok artifacts := congrArg Prod.fst hl
    have judged : strict.1 = verdict artifacts := congrArg Prod.fst hs
    refine ⟨by rw [world], by rw [world], world, ?_, ?_, ?_, unpackaged⟩
    · intro failure h
      rw [returned] at h
      cases h
    · intro found report h reported failed
      obtain rfl : artifacts = found := Except.ok.inj (returned.symm.trans h)
      rw [judged]
      exact verdict_of_failure reported failed
    · intro found h succeeded
      obtain rfl : artifacts = found := Except.ok.inj (returned.symm.trans h)
      rw [judged, verdict_of_success succeeded]

/-- The compiler writes a file and fails, and the archiver succeeds. Both are started in a strict
build too. -/
theorem strict_changes_only_verdict_where_compiler_fails :
    let machine : Machine := ⟨["/bin".toList], fun program _ dir files =>
      if program.getLast? = some "javac".toList then
        ⟨.exited 1, "error".toList, files.put (dir ++ ["errors".toList]) (.file ⟨[], false⟩)⟩
      else ⟨.exited 0, [], files⟩⟩
    let tool : Entry := .file ⟨[], true⟩
    let files := (((scriptDirectory "name: A".toList).put ["bin".toList] .directory).put
      ["bin".toList, "javac".toList] tool).put ["bin".toList, "jar".toList] tool
    let options : Options := { outputDir := some "out".toList }
    let strict := run machine { options with strict := true } (.ofFiles files)
    let lenient := run machine { options with strict := false } (.ofFiles files)
    lenient.1 = .ok ⟨"out/A.java".toList, none, "out/A.jar".toList,
      some ⟨.failed (some 1), .succeeded⟩⟩ ∧
    strict.1 = .error (.toolchain .compile (.failed (some 1))) ∧
    strict.2.files = lenient.2.files ∧
    starts strict.2 = [(.compile, "/bin/javac".toList, ["A.java".toList]),
      (.archive, "/bin/jar".toList, ["cvf", "A.jar", "A.class"].map String.toList)] := by
  intro machine tool files options strict lenient
  have returned : lenient.1 = .ok ⟨"out/A.java".toList, none, "out/A.jar".toList,
      some ⟨.failed (some 1), .succeeded⟩⟩ := by
    decide +kernel
  have started : starts lenient.2 = [(.compile, "/bin/javac".toList, ["A.java".toList]),
      (.archive, "/bin/jar".toList, ["cvf", "A.jar", "A.class"].map String.toList)] := by
    decide +kernel
  obtain ⟨same, -, (left : strict.2 = lenient.2), -, failing, -⟩ :=
    strict_changes_only_verdict machine options (.ofFiles files)
  obtain ⟨step, outcome, judged, first⟩ := failing _ _ returned rfl rfl
  refine ⟨returned, ?_, congrArg World.files left, same.trans started⟩
  cases first with
  | compile => exact judged
  | archive done => cases done

end Build

end VoidScript
