import VoidScript.Proofs.Script

/-!
One generator for several scripts. A call hands all collected fragments over, so the next script
finds the generator as it finds a new one.

* `map_some_fragments`, `length_fragments`: the class of a script has one fragment for each line
  that was not dropped, in their order, and each line was dropped or has its fragment;
* `generate_idle`: after a call nothing is left over;
* `results_of_idle`: so every call of a sequence returns what a new generator returns;
* `generator_carries_nothing_over`: both for every sequence of scripts.
-/

namespace VoidScript

namespace Script

def kept (script : Script) : List Line :=
  script.lines.filter fun line => !line.directive.isDropped

def dropped (script : Script) : List Line :=
  script.lines.filter fun line => line.directive.isDropped

end Script

namespace Plugin.Generator

/-! ## The lines of one script -/

theorem map_some_filterMap (lines : List Line) :
    ((lines.map (·.directive)).filterMap fragment?).map some =
      (lines.filter fun line => !line.directive.isDropped).map fun line =>
        fragment? line.directive := by
  induction lines with
  | nil => rfl
  | cons line lines ih =>
    cases h : fragment? line.directive with
    | none => simpa [h, fragment?_eq_none_iff.mp h] using ih
    | some fragment =>
      have kept : line.directive.isDropped = false := by
        rw [← Bool.not_eq_true, ← fragment?_eq_none_iff, h]
        simp
      simpa [h, kept] using ih

theorem map_some_fragments (script : Script) :
    (fresh.generate script).plugin.fragments.map some =
      script.kept.map fun line => fragment? line.directive := by
  rw [generate_fragments]
  exact map_some_filterMap script.lines

theorem length_fragments (script : Script) :
    (fresh.generate script).plugin.fragments.length + script.dropped.length =
      script.lines.length := by
  have kept := congrArg List.length (map_some_fragments script)
  rw [List.length_map, List.length_map] at kept
  have split : script.lines.length = script.dropped.length + script.kept.length := by
    simpa [Script.dropped, Script.kept, List.countP_eq_length_filter] using
      List.length_eq_countP_add_countP fun line : Line => line.directive.isDropped
  omega

/-! ## Scripts in turn -/

/-- What the calls of one generator return for several scripts, each with the generator that the
call before has left. -/
def results (generator : Generator) : List Script → List Result
  | [] => []
  | script :: scripts =>
      let result := generator.generate script
      result :: results result.generator scripts

/-- No fragment is left over. -/
def IsIdle (generator : Generator) : Prop := generator.fragments = []

theorem IsIdle.eq_fresh {generator : Generator} (idle : generator.IsIdle) : generator = fresh := by
  obtain ⟨fragments⟩ := generator
  exact congrArg mk idle

theorem generate_idle (generator : Generator) (script : Script) :
    (generator.generate script).generator.IsIdle := rfl

theorem results_of_idle {generator : Generator} (idle : generator.IsIdle) (scripts : List Script) :
    generator.results scripts = scripts.map fresh.generate := by
  induction scripts generalizing generator with
  | nil => rfl
  | cons script scripts ih =>
    rw [results, ih (generate_idle generator script), idle.eq_fresh]
    rfl

theorem generateAll_of_idle {generator : Generator} (idle : generator.IsIdle)
    (scripts : List Script) :
    generator.generateAll scripts = ((generator.results scripts).map (·.plugin), fresh) := by
  induction scripts generalizing generator with
  | nil => rw [idle.eq_fresh]; rfl
  | cons script scripts ih => rw [generateAll, ih (generate_idle generator script)]; rfl

/-- A generator carries nothing from one script to the next. In any sequence each call returns what
a new generator returns for its script alone, and leaves no fragment behind; and the fragments that
it returns are those of the script's lines that were not dropped. -/
theorem generator_carries_nothing_over (scripts : List Script) :
    let results := fresh.results scripts
    fresh.generateAll scripts = (results.map (·.plugin), fresh) ∧
    results.length = scripts.length ∧
    ∀ (i : Nat) script result, scripts[i]? = some script → results[i]? = some result →
      result = fresh.generate script ∧
      result.generator.fragments = [] ∧
      result.plugin.name = script.metadata.name ∧
      (result.plugin.fragments.map some = script.kept.map fun line => fragment? line.directive) ∧
      result.plugin.fragments.length + script.dropped.length = script.lines.length := by
  intro results
  have idle : fresh.IsIdle := rfl
  have each : results = scripts.map fresh.generate := results_of_idle idle scripts
  refine ⟨generateAll_of_idle idle scripts, by rw [each, List.length_map], ?_⟩
  intro i script result hs hr
  obtain rfl : fresh.generate script = result := by
    rw [each, List.getElem?_map, hs] at hr
    exact Option.some.inj hr
  exact ⟨rfl, rfl, rfl, map_some_fragments script, length_fragments script⟩

end Plugin.Generator

end VoidScript
