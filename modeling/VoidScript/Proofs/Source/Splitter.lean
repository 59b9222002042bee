import VoidScript.Listing
import VoidScript.Plugin.Generator
import VoidScript.Proofs.Source.Lines
import VoidScript.Proofs.Text.Bytes

/-!
Splitting a source text in place. The text is held as UTF-8 and is cut at byte offsets, line by
line, from the front; an offset inside a character would spoil the cut.

* `step_ended`, `step_last`: one turn takes one line off the text, and no cut is spoiled;
* `run_done`: so the loop ends with the lines of the text, after at most one turn more than the
  text has characters;
* `splitting_exact`: the lines keep every character but the terminators, and which terminators a
  text uses makes no difference to anything read from it.
-/

namespace VoidScript

namespace Text

/-- The byte offset of the first character that satisfies `p`. -/
def offset? (p : Char → Bool) : Text → Option Nat
  | [] => none
  | c :: s => if p c then some 0 else (offset? p s).map (c.utf8Size + ·)

theorem offset?_eq_none {p : Char → Bool} {s : Text} (h : ∀ c ∈ s, p c = false) :
    offset? p s = none := by
  induction s with
  | nil => rfl
  | cons c s ih =>
    obtain ⟨hc, hs⟩ := List.forall_mem_cons.mp h
    simp [offset?, hc, ih hs]

theorem offset?_append {p : Char → Bool} {s : Text} (h : ∀ c ∈ s, p c = false) {c : Char}
    (hc : p c = true) (t : Text) : offset? p (s ++ c :: t) = some (byteLength s) := by
  induction s with
  | nil => simp [offset?, hc, byteLength]
  | cons d s ih =>
    obtain ⟨hd, hs⟩ := List.forall_mem_cons.mp h
    simp [offset?, hd, ih hs, byteLength]

end Text

namespace Source

/-- The splitting loop between two turns. -/
structure Splitter where
  found : List Text
  rest : Text

namespace Splitter

inductive Turn
  | done (lines : List Text)
  | next (splitter : Splitter)
  /-- A cut at an offset that is no boundary between characters. -/
  | spoiled

def isBreak (c : Char) : Bool := c == '\r' || c == '\n'

def step (splitter : Splitter) : Turn :=
  if splitter.rest.isEmpty then .done splitter.found
  else
    match Text.offset? isBreak splitter.rest with
    | none => .done (splitter.found ++ [splitter.rest])
    | some stop =>
      match Text.divide? stop splitter.rest with
      | none => .spoiled
      | some (line, tail) =>
        let width := if "\r\n".toList.isPrefixOf tail then 2 else 1
        match Text.divide? (stop + width) splitter.rest with
        | none => .spoiled
        | some (_, rest) => .next ⟨splitter.found ++ [line], rest⟩

/-- At most so many turns, fewer if the loop ends before. -/
def run : Nat → Splitter → Turn
  | 0, splitter => .next splitter
  | turns + 1, splitter =>
    match splitter.step with
    | .next splitter => splitter.run turns
    | ended => ended

theorem isBreak_eq_false {line : Text} (h : Text.Unbroken line) :
    ∀ c ∈ line, isBreak c = false := by
  intro c hc
  have hr : c ≠ '\r' := fun he => h.1 (he ▸ hc)
  have hn : c ≠ '\n' := fun he => h.2 (he ▸ hc)
  simp [isBreak, hr, hn]

theorem step_last (found : List Text) {line : Text} (h : Text.Unbroken line) :
    step ⟨found, line⟩ = .done (found ++ lines line) := by
  by_cases hne : line = []
  · subst hne; simp [step, lines]
  · have hf := Text.offset?_eq_none (isBreak_eq_false h)
    simp [step, hne, hf, lines_of_unbroken h hne]

/-- The width by the lookahead is that of the terminator. -/
theorem width_eq {terminator rest : Text} (ends : Ends terminator rest) :
    (if "\r\n".toList.isPrefixOf (terminator ++ rest) then 2 else 1) =
      Text.byteLength terminator := by
  cases ends with
  | pair => rfl
  | @single c rest hc alone =>
    have hp : ¬ "\r\n".toList <+: [c] ++ rest := by
      rintro ⟨tail, ht⟩
      obtain ⟨rfl, rfl⟩ : '\r' = c ∧ '\n' :: tail = rest := by simpa using ht
      exact alone ⟨rfl, rfl⟩
    rw [if_neg (by simpa using hp)]
    rcases hc with rfl | rfl <;> rfl

theorem step_ended (found : List Text) {line terminator rest : Text} (h : Text.Unbroken line)
    (ends : Ends terminator rest) :
    step ⟨found, line ++ (terminator ++ rest)⟩ = .next ⟨found ++ [line], rest⟩ := by
  obtain ⟨c, tail, rfl, hc⟩ : ∃ c tail, terminator = c :: tail ∧ isBreak c = true := by
    cases ends with
    | pair => exact ⟨_, _, rfl, rfl⟩
    | single hc => exact ⟨_, _, rfl, by simpa [isBreak] using hc⟩
  have found_at := Text.offset?_append (isBreak_eq_false h) hc (tail ++ rest)
  have cut := Text.divide?_append line (c :: tail ++ rest)
  have cut_after := Text.divide?_append (line ++ c :: tail) rest
  rw [Text.byteLength_append, ← width_eq ends, List.append_assoc] at cut_after
  simp only [List.cons_append] at found_at cut cut_after ⊢
  simp only [step, List.isEmpty_iff, List.append_eq_nil_iff, reduceCtorEq, and_false, ↓reduceIte,
    found_at, cut, cut_after]

/-- Each turn takes at least a terminator off the text, so the turns are bounded by its length. -/
theorem run_done {turns : Nat} {rest : Text} (h : rest.length < turns) (found : List Text) :
    run turns ⟨found, rest⟩ = .done (found ++ lines rest) := by
  induction turns generalizing found rest with
  | zero => omega
  | succ turns ih =>
    by_cases hu : Text.Unbroken rest
    · rw [run, step_last found hu]
    · obtain ⟨line, terminator, rest, rfl, hl, ends⟩ := exists_ended hu
      have shorter : rest.length < turns := by
        have : 0 < terminator.length := by cases ends <;> simp
        simp only [List.length_append] at h
        omega
      rw [run, step_ended found hl ends, lines_ended hl ends]
      simpa using ih shorter (found ++ [line])

def start (source : Text) : Splitter := ⟨[], source⟩

end Splitter

/-- The text with every carriage return that a line feed follows left out. -/
def joinPairs : Text → Text
  | [] => []
  | '\r' :: '\n' :: rest => '\n' :: joinPairs rest
  | c :: rest => c :: joinPairs rest

theorem normalize_eq (s : Text) :
    normalize s = (joinPairs s).map fun c => if c = '\r' then '\n' else c := by
  fun_induction joinPairs s with
  | case1 => rfl
  | case2 rest ih => simp [normalize, ih]
  | case3 c rest alone ih =>
    rw [normalize, ih, List.map_cons]
    exact alone

/-- Splitting is exact and does not depend on the convention for line ends. The loop ends without
a spoiled cut; its lines hold no terminator and make up the normalized text; and a text and its
normalized form give the same script, listing and class. -/
theorem splitting_exact (s : Text) :
    (Splitter.start s).run (s.length + 1) = .done (lines s) ∧
    (∀ line ∈ lines s, '\r' ∉ line ∧ '\n' ∉ line) ∧
    normalize s = (joinPairs s).map (fun c => if c = '\r' then '\n' else c) ∧
    lines (normalize s) = lines s ∧
    Text.unlines (lines s) =
      (if normalize s = [] ∨ (normalize s).getLast? = some '\n' then normalize s
        else normalize s ++ ['\n']) ∧
    Script.parse (normalize s) = Script.parse s ∧
    Listing.render (Script.parse (normalize s)) = Listing.render (Script.parse s) ∧
    Plugin.translate (normalize s) = Plugin.translate s := by
  have same : Script.parse (normalize s) = Script.parse s := by
    simp only [Script.parse, lines_normalize]
  refine ⟨Splitter.run_done (Nat.lt_succ_self _) [], fun line h => lines_unbroken h,
    normalize_eq s, lines_normalize s, unlines_lines s, same, ?_, ?_⟩
  · rw [same]
  · simp only [Plugin.translate, same]

end Source

end VoidScript
