import VoidScript.Proofs.Text.Unbroken
import VoidScript.Source

/-!
The lines of a source text.

* `lines_append`: a text cut between two of its lines has the lines of both parts;
* `lines_unlines`: lines that are written out are read back;
* `lines_unbroken`: no terminator is left inside a line;
* `unlines_lines`, `lines_normalize`: the lines determine the text up to the choice of terminators
  and a missing last one.
-/

namespace VoidScript.Source

open Text (Unbroken unlines)

theorem lines_pair (rest : Text) : lines ('\r' :: '\n' :: rest) = [] :: lines rest := rfl

theorem lines_break {c : Char} {rest : Text} (hc : c = '\r' ∨ c = '\n')
    (alone : ¬ (c = '\r' ∧ rest.head? = some '\n')) : lines (c :: rest) = [] :: lines rest := by
  rw [lines, if_pos hc]
  rintro rest' rfl rfl
  exact alone ⟨rfl, rfl⟩

theorem lines_char {c : Char} (hc : ¬ (c = '\r' ∨ c = '\n')) (rest : Text) :
    lines (c :: rest) = extend c (lines rest) := by
  rw [lines, if_neg hc]
  rintro rest' rfl
  exact absurd (Or.inl rfl) hc

theorem extend_ne_nil (c : Char) (ls : List Text) : extend c ls ≠ [] := by
  cases ls <;> simp [extend]

theorem lines_ne_nil {s : Text} (h : s ≠ []) : lines s ≠ [] := by
  fun_cases lines s with
  | case1 => exact absurd rfl h
  | case2 | case3 => simp
  | case4 c rest => exact extend_ne_nil c _

theorem extend_append {c : Char} {ls : List Text} (h : ls ≠ []) (ms : List Text) :
    extend c (ls ++ ms) = extend c ls ++ ms := by
  cases ls with
  | nil => exact absurd rfl h
  | cons line rest => rfl

theorem lines_unbroken {s line : Text} (h : line ∈ lines s) : Unbroken line := by
  fun_induction lines s generalizing line with
  | case1 => simp at h
  | case2 rest ih | case3 c rest alone hc ih =>
    rcases List.mem_cons.mp h with rfl | h
    · exact Text.unbroken_nil
    · exact ih h
  | case4 c rest alone hc ih =>
    have hc' : c ≠ '\r' ∧ c ≠ '\n' := not_or.mp hc
    cases hl : lines rest with
    | nil =>
      rw [hl] at h
      obtain rfl : line = [c] := by simpa [extend] using h
      simp [hc']
    | cons first others =>
      rw [hl] at h ih
      rcases List.mem_cons.mp h with rfl | h
      · simp [hc', ih List.mem_cons_self]
      · exact ih (List.mem_cons_of_mem first h)

/-! ## Cutting a text between two lines -/

/-- The first text ends where a line ends, and the cut is not inside a terminator. -/
def Cuts (s t : Text) : Prop :=
  (s = [] ∨ s.getLast? = some '\n' ∨ s.getLast? = some '\r') ∧
    ¬ (s.getLast? = some '\r' ∧ t.head? = some '\n')

instance (s t : Text) : Decidable (Cuts s t) := inferInstanceAs (Decidable (_ ∧ _))

theorem Cuts.tail {c : Char} {s t : Text} (h : Cuts (c :: s) t) (hs : s ≠ []) : Cuts s t := by
  obtain ⟨d, s, rfl⟩ := List.exists_cons_of_ne_nil hs
  simpa [Cuts] using h

theorem lines_append {s t : Text} (cut : Cuts s t) : lines (s ++ t) = lines s ++ lines t := by
  fun_induction lines s with
  | case1 => rfl
  | case2 rest ih =>
    rw [List.cons_append, List.cons_append, lines_pair, List.cons_append]
    by_cases hs : rest = []
    · subst hs; rfl
    · rw [ih ((cut.tail (by simp)).tail hs)]
  | case3 c rest alone hc ih =>
    -- Only a carriage return at the very end could join a line feed after the cut.
    have hp : ¬ (c = '\r' ∧ (rest ++ t).head? = some '\n') := by
      rintro ⟨rfl, hn⟩
      cases rest with
      | nil => exact cut.2 ⟨rfl, hn⟩
      | cons d rest => exact alone rest rfl (by simpa using hn)
    rw [List.cons_append, lines_break hc hp, List.cons_append]
    by_cases hs : rest = []
    · subst hs; rfl
    · rw [ih (cut.tail hs)]
  | case4 c rest alone hc ih =>
    -- The first text does not end with `c`, so the line of `c` ends before the cut.
    have hs : rest ≠ [] := by
      rintro rfl
      rcases cut.1 with h | h | h
      · cases h
      · exact hc (Or.inr (by simpa using h))
      · exact hc (Or.inl (by simpa using h))
    rw [List.cons_append, lines_char hc, ih (cut.tail hs), extend_append (lines_ne_nil hs)]

/-! ## Writing lines out -/

/-- What ends a line before `rest`. A carriage return takes a line feed after it along. -/
inductive Ends : Text → Text → Prop
  | pair (rest : Text) : Ends ['\r', '\n'] rest
  | single {c : Char} {rest : Text} (hc : c = '\r' ∨ c = '\n')
      (alone : ¬ (c = '\r' ∧ rest.head? = some '\n')) : Ends [c] rest

theorem lines_ended {line terminator rest : Text} (h : Unbroken line)
    (ends : Ends terminator rest) :
    lines (line ++ (terminator ++ rest)) = line :: lines rest := by
  induction line with
  | nil =>
    cases ends with
    | pair => rfl
    | single hc alone => exact lines_break hc alone
  | cons c line ih =>
    obtain ⟨hc, hl⟩ := Text.unbroken_cons.mp h
    rw [List.cons_append, lines_char (not_or.mpr hc), ih hl]
    rfl

theorem exists_ended {s : Text} (h : ¬ Unbroken s) :
    ∃ line terminator rest,
      s = line ++ (terminator ++ rest) ∧ Unbroken line ∧ Ends terminator rest := by
  induction s with
  | nil => exact absurd Text.unbroken_nil h
  | cons c s ih =>
    by_cases hc : c = '\r' ∨ c = '\n'
    · by_cases hp : c = '\r' ∧ s.head? = some '\n'
      · obtain ⟨rfl, hn⟩ := hp
        obtain ⟨rest, rfl⟩ := List.head?_eq_some_iff.mp hn
        exact ⟨[], _, rest, rfl, Text.unbroken_nil, .pair rest⟩
      · exact ⟨[], [c], s, rfl, Text.unbroken_nil, .single hc hp⟩
    · obtain ⟨line, terminator, rest, rfl, hl, ends⟩ :=
        ih (fun hs => h (Text.unbroken_cons.mpr ⟨not_or.mp hc, hs⟩))
      exact ⟨c :: line, terminator, rest, rfl, Text.unbroken_cons.mpr ⟨not_or.mp hc, hl⟩, ends⟩

theorem lines_of_unbroken {line : Text} (h : Unbroken line) (hne : line ≠ []) :
    lines line = [line] := by
  induction line with
  | nil => exact absurd rfl hne
  | cons c line ih =>
    obtain ⟨hc, hl⟩ := Text.unbroken_cons.mp h
    rw [lines_char (not_or.mpr hc)]
    by_cases he : line = []
    · subst he; rfl
    · rw [ih hl he]; rfl

theorem lines_unlines {ls : List Text} (h : ∀ line ∈ ls, Unbroken line) :
    lines (unlines ls) = ls := by
  induction ls with
  | nil => rfl
  | cons line ls ih =>
    obtain ⟨hl, hls⟩ := List.forall_mem_cons.mp h
    have ends : Ends ['\n'] (unlines ls) := .single (Or.inr rfl) (by simp)
    rw [Text.unlines_cons, ← List.singleton_append, lines_ended hl ends, ih hls]

/-! ## One terminator for all -/

/-- The text with a line feed after its last line, unless it has one already or has no line. -/
def closed (s : Text) : Text := if s = [] ∨ s.getLast? = some '\n' then s else s ++ ['\n']

theorem closed_cons {s : Text} (h : s ≠ []) (c : Char) : closed (c :: s) = c :: closed s := by
  obtain ⟨d, s, rfl⟩ := List.exists_cons_of_ne_nil h
  simp only [closed, List.getLast?_cons_cons, reduceCtorEq, false_or]
  split <;> rfl

theorem closed_line_feed_cons (s : Text) : closed ('\n' :: s) = '\n' :: closed s := by
  cases s with
  | nil => rfl
  | cons c s => exact closed_cons (by simp) '\n'

theorem normalize_break {c : Char} {rest : Text} (hc : c = '\r' ∨ c = '\n')
    (alone : ∀ rest', c = '\r' → rest = '\n' :: rest' → False) :
    normalize (c :: rest) = '\n' :: normalize rest := by
  rw [normalize]
  · rcases hc with rfl | rfl <;> rfl
  · exact alone

theorem normalize_char {c : Char} (hc : ¬ (c = '\r' ∨ c = '\n')) (rest : Text) :
    normalize (c :: rest) = c :: normalize rest := by
  rw [normalize, if_neg (fun h => hc (Or.inl h))]
  rintro rest' rfl
  exact absurd (Or.inl rfl) hc

theorem normalize_ne_nil {s : Text} (h : s ≠ []) : normalize s ≠ [] := by
  fun_cases normalize s with
  | case1 => exact absurd rfl h
  | case2 | case3 => simp

theorem unlines_extend (c : Char) {ls : List Text} (h : ls ≠ []) :
    unlines (extend c ls) = c :: unlines ls := by
  obtain ⟨line, ls, rfl⟩ := List.exists_cons_of_ne_nil h
  simp [extend]

/-- No character is lost, doubled or moved: the lines, each with a line feed after it, are the
normalized text. -/
theorem unlines_lines (s : Text) : unlines (lines s) = closed (normalize s) := by
  fun_induction lines s with
  | case1 => rfl
  | case2 rest ih =>
    rw [normalize, closed_line_feed_cons, ← ih]
    simp
  | case3 c rest alone hc ih =>
    rw [normalize_break hc alone, closed_line_feed_cons, ← ih]
    simp
  | case4 c rest alone hc ih =>
    rw [normalize_char hc]
    by_cases hs : rest = []
    · subst hs
      simp [lines, extend, normalize, closed, not_or.mp hc]
    · rw [closed_cons (normalize_ne_nil hs), ← ih, unlines_extend c (lines_ne_nil hs)]

theorem lines_normalize (s : Text) : lines (normalize s) = lines s := by
  fun_induction lines s with
  | case1 => rfl
  | case2 rest ih => rw [normalize, lines_break (Or.inr rfl) (by simp), ih]
  | case3 c rest alone hc ih =>
    rw [normalize_break hc alone, lines_break (Or.inr rfl) (by simp), ih]
  | case4 c rest alone hc ih => rw [normalize_char hc, lines_char hc, ih]

end VoidScript.Source
