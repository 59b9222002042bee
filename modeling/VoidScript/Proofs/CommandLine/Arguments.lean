import VoidScript.CommandLine.Arguments
import VoidScript.Proofs.FileSystem

/-!
Switches on the command line. A switch that was read stays on, whatever else is read, and a switch
that stands among the options is read unless nothing is.

* `readFrom_switches`: reading further turns no switch off;
* `mem_switches_of_label`: a switch that is given by its name is on.
-/

namespace VoidScript.CommandLine.Arguments

variable {arguments after : Arguments} {switch : Switch}

theorem settle_switches (h : arguments.settle = .ok after) :
    after.switches = arguments.switches := by
  unfold settle at h
  split at h
  · rw [← Except.ok.inj h]
  · cases h
  · split at h
    · cases h
    · split at h
      · cases h
      · rw [← Except.ok.inj h]

theorem turnOn_switches (h : arguments.turnOn switch = .ok after) :
    after.switches = arguments.switches ++ [switch] := by
  obtain ⟨settled, hs, h⟩ := bind_eq_ok.mp h
  rw [← settle_switches hs]
  split at h
  · cases h
  · cases h
  · split at h
    · cases h
    · rw [← Except.ok.inj h]

theorem assign_switches {slot : Slot} {value : Text} (h : arguments.assign slot value = .ok after) :
    after.switches = arguments.switches := by
  obtain ⟨settled, hs, h⟩ := bind_eq_ok.mp h
  rw [settle_switches h, ← settle_switches hs]

theorem await_switches {slot : Slot} (h : arguments.await slot = .ok after) :
    after.switches = arguments.switches := by
  obtain ⟨settled, hs, h⟩ := bind_eq_ok.mp h
  rw [← Except.ok.inj h, ← settle_switches hs]

theorem position_switches {argument : Text} (h : arguments.position argument = .ok after) :
    after.switches = arguments.switches := by
  unfold position at h
  split at h
  · cases h
  · obtain ⟨settled, hs, h⟩ := bind_eq_ok.mp h
    rw [← Except.ok.inj h, ← settle_switches hs]

theorem readFree_switches {argument : Text} (h : arguments.readFree argument = .ok after) :
    after.switches = arguments.switches := by
  unfold readFree at h
  split at h
  · rw [← Except.ok.inj h]
  · exact position_switches h

theorem readLong_switches {body : Text} (h : arguments.readLong body = .ok after)
    (on : switch ∈ arguments.switches) : switch ∈ after.switches := by
  unfold readLong at h
  dsimp only at h
  split at h
  · rwa [assign_switches h]
  · rwa [await_switches h]
  · cases h
  · rw [turnOn_switches h]
    exact List.mem_append_left _ on
  · cases h

theorem readShort_switches {group : Text} (h : arguments.readShort group = .ok after)
    (on : switch ∈ arguments.switches) : switch ∈ after.switches := by
  fun_induction readShort arguments group with
  | case1 => rwa [← Except.ok.inj h]
  | case2 arguments c rest other _ ih =>
    obtain ⟨next, hn, h⟩ := bind_eq_ok.mp h
    refine ih next h ?_
    rw [turnOn_switches hn]
    exact List.mem_append_left _ on
  | case3 => rwa [await_switches h]
  | case4 | case5 => rwa [assign_switches h]
  | case6 => cases h

theorem foldlM_position_switches {argv : List Text}
    (h : argv.foldlM position arguments = .ok after) : after.switches = arguments.switches := by
  induction argv generalizing arguments with
  | nil => rw [← Except.ok.inj h]
  | cons argument argv ih =>
    rw [List.foldlM_cons] at h
    obtain ⟨next, hn, h⟩ := bind_eq_ok.mp h
    rw [ih h, position_switches hn]

theorem readFrom_switches {argv : List Text} (h : arguments.readFrom argv = .ok after)
    (on : switch ∈ arguments.switches) : switch ∈ after.switches := by
  fun_induction readFrom arguments argv with
  | case1 => rwa [settle_switches h]
  | case2 arguments rest =>
    obtain ⟨placed, hp, h⟩ := bind_eq_ok.mp h
    rwa [settle_switches h, foldlM_position_switches hp]
  | case3 arguments rest body _ ih =>
    obtain ⟨next, hn, h⟩ := bind_eq_ok.mp h
    exact ih next h (readLong_switches hn on)
  | case4 arguments rest c group _ _ ih =>
    obtain ⟨next, hn, h⟩ := bind_eq_ok.mp h
    exact ih next h (readShort_switches hn on)
  | case5 arguments rest argument _ _ _ ih =>
    obtain ⟨next, hn, h⟩ := bind_eq_ok.mp h
    exact ih next h (by rwa [readFree_switches hn])

theorem readLong_name (switch : Switch) :
    arguments.readLong switch.name = arguments.turnOn switch := by
  cases switch <;> rfl

theorem mem_switches_of_label {argv : List Text} (h : arguments.readFrom argv = .ok after)
    (given : switch.label ∈ argv.takeWhile (· ≠ ['-', '-'])) : switch ∈ after.switches := by
  have written : switch.label = '-' :: '-' :: switch.name := rfl
  fun_induction readFrom arguments argv with
  | case1 => cases given
  | case2 => simp at given
  | case3 arguments rest body proper ih =>
    rw [List.takeWhile_cons_of_pos (by simpa using proper)] at given
    obtain ⟨next, hn, hr⟩ := bind_eq_ok.mp h
    rcases List.mem_cons.mp given with here | later
    · obtain rfl : switch.name = body := by simpa [written] using here
      rw [readLong_name] at hn
      refine readFrom_switches hr ?_
      rw [turnOn_switches hn]
      exact List.mem_append_right _ (List.mem_singleton_self switch)
    · exact ih next hr later
  | case4 arguments rest c group _ single ih =>
    have other : '-' :: c :: group ≠ ['-', '-'] := fun same =>
      single (List.cons.inj (List.cons.inj same).2).1
    rw [List.takeWhile_cons, if_pos (decide_eq_true other)] at given
    obtain ⟨next, hn, h⟩ := bind_eq_ok.mp h
    rcases List.mem_cons.mp given with here | later
    · rw [written] at here
      exact (single (List.cons.inj (List.cons.inj here).2).1.symm).elim
    · exact ih next h later
  | case5 arguments rest argument other long _ ih =>
    have other : argument ≠ ['-', '-'] := other
    rw [List.takeWhile_cons, if_pos (decide_eq_true other)] at given
    obtain ⟨next, hn, h⟩ := bind_eq_ok.mp h
    rcases List.mem_cons.mp given with here | later
    · exact (long switch.name here.symm).elim
    · exact ih next h later

end VoidScript.CommandLine.Arguments
