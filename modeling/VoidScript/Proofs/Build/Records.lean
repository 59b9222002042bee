import VoidScript.Proofs.Build

/-!
What a build records until it is packaged. Reading, compiling and writing have records of their
own; no tool has its turn, and nothing is warned of.

* `Quiet`: what lies between two worlds involved no tool;
* `compile_quiet`, `prepare_quiet`: compiling and preparing are quiet, also where they fail.
-/

namespace VoidScript.Build

/-! ## Quiet actions -/

/-- No tool had its turn: no record is about one, none is a warning, and nothing was printed. -/
structure Quiet (before after : World) : Prop where
  log : ∃ events, after.log = before.log ++ events ∧
    ∀ event ∈ events, event.component ≠ .toolchain ∧ event.level ≠ .warn
  output : after.output = before.output

theorem Quiet.refl (world : World) : Quiet world world :=
  ⟨⟨[], (List.append_nil _).symm, nofun⟩, rfl⟩

theorem Quiet.trans {a b c : World} (hab : Quiet a b) (hbc : Quiet b c) : Quiet a c := by
  obtain ⟨first, hf, quiet⟩ := hab.log
  obtain ⟨second, hs, quiet'⟩ := hbc.log
  refine ⟨⟨first ++ second, ?_, ?_⟩, hbc.output.trans hab.output⟩
  · rw [hs, hf, List.append_assoc]
  · intro event he
    rcases List.mem_append.mp he with he | he
    · exact quiet event he
    · exact quiet' event he

/-- The action is quiet wherever it starts, and also if it fails. -/
def Action.IsQuiet (action : Action α) : Prop := ∀ world, Quiet world (action world).2

theorem Action.isQuiet_pure (value : α) : (pure value : Action α).IsQuiet := Quiet.refl

theorem Action.IsQuiet.bind {action : Action α} {next : α → Action β} (first : action.IsQuiet)
    (second : ∀ value, (next value).IsQuiet) : (action >>= next).IsQuiet := by
  intro world
  have start := first world
  rw [bind_apply]
  split
  · rename_i value middle h
    rw [h] at start
    exact start.trans (second value middle)
  · rename_i failure middle h
    rw [h] at start
    exact start

/-! ## Compiling -/

theorem unmatched_component {source : Text} {event : Event} (h : event ∈ unmatched source) :
    event.component = .classifier := by
  obtain ⟨line, -, he⟩ := List.mem_filterMap.mp h
  split at he
  · cases he
    rfl
  · cases he

theorem generate_component {generator : Plugin.Generator} {script : Script} {event : Event}
    (h : event ∈ (generator.generate script).log) : event.component = .generator := by
  rcases List.mem_append.mp h with h | h
  · obtain ⟨line, -, he⟩ := List.mem_flatMap.mp h
    unfold Plugin.Generator.account at he
    split at he
    · cases he
    · rw [List.mem_singleton.mp he]
      rfl
  · rw [List.mem_singleton.mp h]
    rfl

/-- Only the tools and the command line have something to warn of. -/
theorem quiet_of_component {event : Event}
    (h : event.component = .classifier ∨ event.component = .generator ∨
      event.component = .build) : event.component ≠ .toolchain ∧ event.level ≠ .warn := by
  cases event <;> simp_all [Event.component, Event.level]

theorem compile_quiet (options : Options) : (compile options).IsQuiet := by
  intro world
  unfold compile
  split
  · exact .refl world
  · refine ⟨⟨_, rfl, ?_⟩, rfl⟩
    intro event he
    apply quiet_of_component
    rcases List.mem_append.mp he with he | he
    · rcases List.mem_cons.mp he with rfl | he
      · exact .inr (.inr rfl)
      · exact .inl (unmatched_component he)
    · rcases List.mem_cons.mp he with rfl | he
      · exact .inr (.inr rfl)
      · exact .inr (.inl (generate_component he))

/-- Compiling involves no tool. -/
theorem compile_log {options : Options} {world : World} {event : Event}
    (h : event ∈ (compile options world).2.log) :
    event ∈ world.log ∨ event.component ≠ .toolchain := by
  obtain ⟨events, hl, quiet⟩ := (compile_quiet options world).log
  rw [hl] at h
  rcases List.mem_append.mp h with h | h
  · exact .inl h
  · exact .inr (quiet event h).1

/-! ## Preparing -/

theorem ensureDirectory_quiet (dir : Path) : (ensureDirectory dir).IsQuiet :=
  fun world => ⟨⟨[], (List.append_nil world.log).symm, nofun⟩, rfl⟩

theorem store_quiet {event : Event} (h : event.component = .build) (file : Path)
    (content : Text) : (store file content event).IsQuiet := by
  have writing : (writeFile file content).IsQuiet := by
    intro world
    unfold writeFile
    split
    · exact ⟨⟨[], (List.append_nil world.log).symm, nofun⟩, rfl⟩
    · exact .refl world
  have recording : (record [event]).IsQuiet := by
    intro world
    refine ⟨⟨[event], rfl, ?_⟩, rfl⟩
    intro other he
    obtain rfl := List.mem_singleton.mp he
    exact quiet_of_component (.inr (.inr h))
  exact writing.bind fun _ => recording.bind fun _ => Action.isQuiet_pure file

theorem whenever_quiet {action : Action α} (h : action.IsQuiet) (wanted : Bool) :
    (whenever wanted action).IsQuiet := by
  cases wanted with
  | false => exact Action.isQuiet_pure none
  | true => exact h.bind fun value => Action.isQuiet_pure (some value)

theorem prepare_quiet (options : Options) : (prepare options).IsQuiet := by
  refine (compile_quiet options).bind fun compiled => ?_
  refine (ensureDirectory_quiet options.dir).bind fun _ => ?_
  rw [writeSource_eq, writeDescriptor_eq]
  refine (store_quiet rfl _ _).bind fun _ => ?_
  exact (whenever_quiet (store_quiet rfl _ _) options.descriptor).bind fun _ =>
    Action.isQuiet_pure _

end VoidScript.Build
