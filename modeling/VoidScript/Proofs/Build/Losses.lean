import VoidScript.Proofs.Build
import VoidScript.Proofs.Plugin.Generator

/-!
No line disappears unrecorded. The classifier records a line whose form it does not know, the
generator a line for which it has no fragment; neither sees what the other records.

* `Loss.ofLines`: the lines of a source that are lost;
* `Loss.map_line`, `Loss.text_of_mem`: they are the dropped lines of the script, with their text;
* `unmatched_eq`, `flatMap_account`: each of the two accounts is made of them, in their order;
* `losses_recorded_twice`: so the log of a compilation has every lost line twice, and as many of
  them as there are fragments missing.
-/

namespace VoidScript

/-- A line that was dropped: its number, the family whose form it lacks, and its text. -/
structure Loss where
  number : Nat
  family : Family
  text : Text
  deriving DecidableEq, Repr

namespace Loss

def line (loss : Loss) : Line := ⟨loss.number, .dropped loss.family⟩

/-- What the classifier records. -/
def unmatched (loss : Loss) : Event := .unmatched loss.family loss.text

/-- What the generator records. -/
def withoutFragment (loss : Loss) : Event := .withoutFragment loss.number

def ofLine? (number : Nat) (text : Text) : Option Loss :=
  match Script.meaning text with
  | .dropped family => some ⟨number, family, Text.trim text⟩
  | _ => none

/-- The losses among lines of which the first has the number `first`. -/
def ofLines (first : Nat) : List Text → List Loss
  | [] => []
  | text :: rest => (ofLine? first text).toList ++ ofLines (first + 1) rest

def ofSource (source : Text) : List Loss := ofLines 1 (Source.lines source)

/-- A line is lost exactly if it was dropped. -/
theorem ofLine?_cases (number : Nat) (text : Text) :
    (∃ family, Script.meaning text = .dropped family ∧
      ofLine? number text = some ⟨number, family, Text.trim text⟩) ∨
    ((Script.meaning text).isDropped = false ∧ ofLine? number text = none) := by
  unfold ofLine?
  split
  · rename_i family h
    exact .inl ⟨family, h, rfl⟩
  · rename_i h
    refine .inr ⟨?_, rfl⟩
    rw [← Bool.not_eq_true]
    intro dropped
    cases hm : Script.meaning text with
    | dropped family => exact h family hm
    | _ => rw [hm] at dropped; cases dropped

theorem map_line (first : Nat) (lines : List Text) :
    (ofLines first lines).map line =
      (Script.number first (lines.map Script.meaning)).filter fun line =>
        line.directive.isDropped := by
  induction lines generalizing first with
  | nil => rfl
  | cons text lines ih =>
    rcases ofLine?_cases first text with ⟨family, hm, hl⟩ | ⟨kept, hl⟩
    · simp [ofLines, hl, Script.number, hm, Directive.isDropped, line, ih]
    · simp [ofLines, hl, Script.number, kept, ih]

theorem text_of_mem {first : Nat} {lines : List Text} {loss : Loss}
    (h : loss ∈ ofLines first lines) :
    ∃ i text, loss.number = first + i ∧ lines[i]? = some text ∧ loss.text = Text.trim text := by
  induction lines generalizing first with
  | nil => cases h
  | cons text lines ih =>
    rcases List.mem_append.mp h with here | later
    · rcases ofLine?_cases first text with ⟨family, -, hl⟩ | ⟨-, hl⟩
      · rw [hl] at here
        obtain rfl := List.mem_singleton.mp here
        exact ⟨0, text, rfl, rfl, rfl⟩
      · rw [hl] at here
        cases here
    · obtain ⟨i, below, number, found, trimmed⟩ := ih later
      exact ⟨i + 1, below, by omega, found, trimmed⟩

theorem map_line_ofSource (source : Text) :
    (ofSource source).map line = (Script.parse source).dropped :=
  map_line 1 (Source.lines source)

end Loss

/-- What the log shows of every record. -/
def Event.heading (event : Event) : Log.Level × Text := (event.level, event.message)

namespace Plugin.Generator

theorem flatMap_account (lines : List Line) :
    lines.flatMap account =
      (lines.filter fun line => line.directive.isDropped).map fun line =>
        .withoutFragment line.number := by
  induction lines with
  | nil => rfl
  | cons line lines ih =>
    cases h : line.directive.isDropped with
    | true => simp [account, fragment?_eq_none_iff.mpr h, h, ih]
    | false =>
      cases hf : fragment? line.directive with
      | none =>
        rw [fragment?_eq_none_iff.mp hf] at h
        cases h
      | some fragment => simp [account, hf, h, ih]

end Plugin.Generator

namespace Build

open Log (Level)
open Plugin (Generator)

theorem unmatched_eq (source : Text) :
    unmatched source = (Loss.ofSource source).map Loss.unmatched := by
  unfold unmatched Loss.ofSource
  -- The classifier does not know the numbers of its lines, so the count may start anywhere.
  generalize 1 = first
  induction Source.lines source generalizing first with
  | nil => rfl
  | cons text lines ih =>
    rw [List.filterMap_cons, ih (first + 1), Loss.ofLines, List.map_append, Loss.ofLine?,
      Script.meaning]
    cases Directive.ofLine (Text.trim text) <;> rfl

theorem account_eq (source : Text) :
    (Script.parse source).lines.flatMap Generator.account =
      (Loss.ofSource source).map Loss.withoutFragment := by
  rw [Generator.flatMap_account, ← Script.dropped, ← Loss.map_line_ofSource, List.map_map]
  rfl

/-- Every line has its fragment or is lost. -/
theorem length_losses (source : Text) :
    (Plugin.fragments source).length + (Loss.ofSource source).length =
      (Source.lines source).length := by
  have lines := congrArg List.length (Script.parse_directives source)
  rw [Script.directives, List.length_map, List.length_map] at lines
  have dropped := congrArg List.length (Loss.map_line_ofSource source)
  rw [List.length_map] at dropped
  have count := Generator.length_fragments (Script.parse source)
  rw [← Plugin.fragments] at count
  omega

theorem compile_of_read {options : Options} {world : World} {source : Text}
    (readable : world.files.read options.input = .ok source) :
    compile options world = (.ok (.ofSource options.input source), world.record
      ([Event.compiling options.input] ++ (Loss.ofSource source).map Loss.unmatched ++
        [Event.classified (Script.parse source).metadata.name (Script.parse source).lines.length] ++
        (Loss.ofSource source).map Loss.withoutFragment ++
        [Event.generated (Script.parse source).metadata.name
          (Plugin.fragments source).length])) := by
  rw [compile, readSource_eq_ok_iff.mpr readable, ← unmatched_eq, ← account_eq, List.append_assoc,
    List.append_assoc _ [_]]
  rfl

/-- A kind of record has one heading. -/
theorem map_heading {record : Loss → Event} {heading : Level × Text}
    (h : ∀ loss, (record loss).heading = heading) (losses : List Loss) :
    (losses.map record).map Event.heading = List.replicate losses.length heading := by
  rw [List.map_map, List.map_eq_replicate_iff]
  exact fun loss _ => h loss

/-- No line disappears unrecorded. Compiling a script that can be read succeeds, and between its
three fixed records it records every dropped line twice: the classifier with its text, and later
the generator with its number. There are as many of them as fragments are missing. -/
theorem losses_recorded_twice {options : Options} {world : World} {source : Text}
    (readable : world.files.read options.input = .ok source) :
    let script := Script.parse source
    let plugin := (Generator.fresh.generate script).plugin
    let losses := Loss.ofSource source
    let missing := (Source.lines source).length - plugin.fragments.length
    let records := [Event.compiling options.input] ++ losses.map Loss.unmatched ++
      [Event.classified script.metadata.name script.lines.length] ++
      losses.map Loss.withoutFragment ++ [Event.generated plugin.name plugin.fragments.length]
    compile options world =
      (.ok ⟨options.input, script.metadata, plugin⟩, world.record records) ∧
    records.map Event.heading =
      [(Level.info, "compiling".toList)] ++
        List.replicate missing
          (Level.debug, "directive did not match its pattern, dropping".toList) ++
        [(Level.info, "classified source lines".toList)] ++
        List.replicate missing (Level.debug, "no fragment emitted".toList) ++
        [(Level.debug, "generated plugin class".toList)] ∧
    losses.map Loss.line = script.dropped ∧
    (∀ loss ∈ losses, ∃ i line, loss.number = i + 1 ∧ (Source.lines source)[i]? = some line ∧
      loss.text = Text.trim line) ∧
    missing + plugin.fragments.length = (Source.lines source).length := by
  intro script plugin losses missing records
  have count : plugin.fragments.length + losses.length = (Source.lines source).length :=
    length_losses source
  have lost : losses.length = missing := by omega
  refine ⟨compile_of_read readable, ?_, Loss.map_line_ofSource source, ?_, by omega⟩
  · have classifier : (losses.map Loss.unmatched).map Event.heading = List.replicate missing
        (Level.debug, "directive did not match its pattern, dropping".toList) := by
      rw [← lost]
      apply map_heading
      intro loss
      rfl
    have generator : (losses.map Loss.withoutFragment).map Event.heading =
        List.replicate missing (Level.debug, "no fragment emitted".toList) := by
      rw [← lost]
      apply map_heading
      intro loss
      rfl
    simp only [records, List.map_append, classifier, generator]
    rfl
  · intro loss hl
    obtain ⟨i, line, number, found, trimmed⟩ := Loss.text_of_mem hl
    exact ⟨i, line, by omega, found, trimmed⟩

/-- Of four lines the first and the last are lost, between line ends of all kinds. -/
theorem losses_recorded_twice_around_kept_lines :
    let source := "loop\rname:A\r\n\nif".toList
    let world := World.ofFiles (scriptDirectory source)
    let ran := compile {} world
    let unmatched := (Level.debug, "directive did not match its pattern, dropping".toList)
    let withoutFragment := (Level.debug, "no fragment emitted".toList)
    world.files.read "main.void".toList = .ok source ∧
    ran.1.map (·.plugin.fragments.length) = .ok 2 ∧
    ran.2.log.map Event.heading =
      [(Level.info, "compiling".toList), unmatched, unmatched,
        (Level.info, "classified source lines".toList), withoutFragment, withoutFragment,
        (Level.debug, "generated plugin class".toList)] ∧
    (Script.parse source).dropped = [⟨1, .dropped .loop⟩, ⟨4, .dropped .branch⟩] := by
  intro source world ran unmatched withoutFragment
  have readable : world.files.read ({} : Options).input = .ok source := by decide +kernel
  have fragments :
      (Generator.fresh.generate (Script.parse source)).plugin.fragments.length = 2 := by
    decide +kernel
  have missing : (Source.lines source).length -
      (Generator.fresh.generate (Script.parse source)).plugin.fragments.length = 2 := by
    rw [fragments]
    decide +kernel
  obtain ⟨compiled, headings, dropped, -, -⟩ := losses_recorded_twice readable
  have returned : ran.1 = .ok _ := congrArg (·.1) compiled
  have log : ran.2.log = [] ++ _ := congrArg (·.2.log) compiled
  rw [missing] at headings
  rw [List.nil_append] at log
  refine ⟨readable, ?_, ?_, ?_⟩
  · rw [returned]
    exact congrArg Except.ok fragments
  · rw [log, headings]
    rfl
  · rw [← dropped]
    decide +kernel

end Build

end VoidScript
