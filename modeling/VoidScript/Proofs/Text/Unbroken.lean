import Mathlib.Data.List.DropRight
import VoidScript.Text.Blank

/-!
Text that no line break divides, and what keeps it so: taking a part of it, stripping its ends,
and writing it out as a line of its own.

* `strip_head`, `strip_last`: a stripped text neither starts nor ends with what was stripped;
* `trim_eq_self`: hence trimming leaves a text alone that has no blank at its ends;
* `splitOn_unlines`: lines that are written out one after the other are read back in order;
* `unlines_eq_append_cons`: every other place in them is a place in one of the lines.
-/

namespace VoidScript.Text

/-- No line ends inside the text. -/
def Unbroken (s : Text) : Prop := '\r' ∉ s ∧ '\n' ∉ s

instance (s : Text) : Decidable (Unbroken s) := inferInstanceAs (Decidable (_ ∧ _))

@[simp] theorem unbroken_nil : Unbroken [] := by simp [Unbroken]

@[simp] theorem unbroken_cons {c : Char} {s : Text} :
    Unbroken (c :: s) ↔ (c ≠ '\r' ∧ c ≠ '\n') ∧ Unbroken s := by
  simp only [Unbroken, List.mem_cons, not_or]
  constructor
  · rintro ⟨⟨hr, hs⟩, hn, ht⟩; exact ⟨⟨Ne.symm hr, Ne.symm hn⟩, hs, ht⟩
  · rintro ⟨⟨hr, hn⟩, hs, ht⟩; exact ⟨⟨Ne.symm hr, hs⟩, Ne.symm hn, ht⟩

@[simp] theorem unbroken_append {s t : Text} : Unbroken (s ++ t) ↔ Unbroken s ∧ Unbroken t := by
  simp only [Unbroken, List.mem_append, not_or]
  constructor
  · rintro ⟨⟨hs, ht⟩, hs', ht'⟩; exact ⟨⟨hs, hs'⟩, ht, ht'⟩
  · rintro ⟨⟨hs, hs'⟩, ht, ht'⟩; exact ⟨⟨hs, ht⟩, hs', ht'⟩

theorem Unbroken.of_subset {s t : Text} (ht : Unbroken t) (h : s ⊆ t) : Unbroken s :=
  ⟨fun hs => ht.1 (h hs), fun hs => ht.2 (h hs)⟩

theorem Unbroken.of_isInfix {s t : Text} (ht : Unbroken t) (h : s <:+: t) : Unbroken s :=
  ht.of_subset h.subset

/-! ## Stripping -/

theorem dropEndWhile_isPrefix (p : Char → Bool) (s : Text) : dropEndWhile p s <+: s :=
  List.rdropWhile_prefix p s

theorem strip_isInfix (p : Char → Bool) (s : Text) : strip p s <:+: s :=
  (dropEndWhile_isPrefix p _).isInfix.trans (List.dropWhile_suffix p).isInfix

theorem trim_isInfix (s : Text) : trim s <:+: s := strip_isInfix isBlank s

theorem strip_head {p : Char → Bool} {s : Text} {c : Char} (h : (strip p s).head? = some c) :
    p c = false := by
  obtain ⟨tail, ht⟩ := dropEndWhile_isPrefix p (s.dropWhile p)
  have hd : (s.dropWhile p).head? = some c := by
    rw [← ht, List.head?_append]
    change (strip p s).head?.or tail.head? = some c
    rw [h, Option.some_or]
  have hn := List.head?_dropWhile_not p s
  rw [hd] at hn
  exact hn

theorem strip_last {p : Char → Bool} {s : Text} {c : Char} (h : (strip p s).getLast? = some c) :
    p c = false := by
  have hne : strip p s ≠ [] := by
    intro hs
    simp [hs] at h
  have hc : (strip p s).getLast hne = c := by
    simpa [List.getLast?_eq_some_getLast hne] using h
  rw [← hc]
  exact Bool.eq_false_iff.mpr (List.rdropWhile_last_not p (s.dropWhile p) hne)

theorem strip_eq_self {p : Char → Bool} {s : Text} (head : ∀ c, s.head? = some c → p c = false)
    (last : ∀ c, s.getLast? = some c → p c = false) : strip p s = s := by
  have hd : s.dropWhile p = s := by
    cases s with
    | nil => rfl
    | cons c rest => simp [head c rfl]
  rw [strip, hd]
  apply List.rdropWhile_eq_self_iff.mpr
  intro hne
  simp [last _ (List.getLast?_eq_some_getLast hne)]

theorem trim_eq_self {s : Text} (head : ∀ c, s.head? = some c → isBlank c = false)
    (last : ∀ c, s.getLast? = some c → isBlank c = false) : trim s = s :=
  strip_eq_self head last

theorem trim_of_ends {s : Text} (first last : Char) (hf : isBlank first = false)
    (hl : isBlank last = false) (head : s.head? = some first) (tail : s.getLast? = some last) :
    trim s = s := by
  apply trim_eq_self
  · intro c hc
    obtain rfl : first = c := by simpa [head] using hc
    exact hf
  · intro c hc
    obtain rfl : last = c := by simpa [tail] using hc
    exact hl

@[simp] theorem trim_trim (s : Text) : trim (trim s) = trim s :=
  trim_eq_self (fun _ => strip_head) (fun _ => strip_last)

/-- Blanks are skipped up to the first character that is none. -/
theorem skipBlanks_append_cons {c : Char} (hc : isBlank c = false) (s t : Text) :
    skipBlanks (s ++ c :: t) = skipBlanks s ++ c :: t := by
  induction s with
  | nil => simp [skipBlanks, hc]
  | cons d s ih =>
    by_cases hd : isBlank d = true
    · simpa [skipBlanks, hd] using ih
    · simp [skipBlanks, hd]

theorem skipBlanks_isSuffix (s : Text) : skipBlanks s <:+ s := List.dropWhile_suffix isBlank

/-! ## Separators -/

theorem splitOn_ne_nil (separator : Char) (s : Text) : splitOn separator s ≠ [] := by
  cases s with
  | nil => simp [splitOn]
  | cons c s =>
    simp only [splitOn]
    split
    · simp
    · split <;> simp

theorem splitOn_of_not_mem {separator : Char} {s : Text} (h : separator ∉ s) :
    splitOn separator s = [s] := by
  induction s with
  | nil => rfl
  | cons c s ih =>
    obtain ⟨hc, hs⟩ : separator ≠ c ∧ separator ∉ s := by simpa using h
    simp [splitOn, Ne.symm hc, ih hs]

theorem splitOn_append_cons (separator : Char) (s t : Text) :
    splitOn separator (s ++ separator :: t) = splitOn separator s ++ splitOn separator t := by
  induction s with
  | nil => simp [splitOn]
  | cons c s ih =>
    simp only [List.cons_append, splitOn, ih]
    split
    · rfl
    · cases hs : splitOn separator s with
      | nil => exact absurd hs (splitOn_ne_nil separator s)
      | cons part parts => rfl

@[simp] theorem unlines_nil : unlines [] = [] := rfl

@[simp] theorem unlines_cons (line : Text) (rest : List Text) :
    unlines (line :: rest) = line ++ '\n' :: unlines rest := by
  simp [unlines]

theorem splitOn_unlines (lines : List Text) :
    splitOn '\n' (unlines lines) = lines.flatMap (splitOn '\n') ++ [[]] := by
  induction lines with
  | nil => rfl
  | cons line rest ih => simp [splitOn_append_cons, ih]

theorem flatMap_splitOn {lines : List Text} (h : ∀ line ∈ lines, Unbroken line) :
    lines.flatMap (splitOn '\n') = lines := by
  induction lines with
  | nil => rfl
  | cons line rest ih =>
    obtain ⟨hl, hr⟩ := List.forall_mem_cons.mp h
    rw [List.flatMap_cons, splitOn_of_not_mem hl.2, ih hr]
    rfl

theorem count_unlines {lines : List Text} (h : ∀ line ∈ lines, '\n' ∉ line) :
    (unlines lines).count '\n' = lines.length := by
  induction lines with
  | nil => rfl
  | cons line rest ih =>
    obtain ⟨hl, hr⟩ := List.forall_mem_cons.mp h
    rw [unlines_cons, List.count_append, List.count_cons_self, List.count_eq_zero_of_not_mem hl,
      ih hr, List.length_cons]
    omega

/-- A character that ends no line stands in one of the lines. -/
theorem unlines_eq_append_cons {c : Char} (hc : c ≠ '\n') {lines : List Text} {before after : Text}
    (h : unlines lines = before ++ c :: after) :
    ∃ earlier line later left right, lines = earlier ++ line :: later ∧
      line = left ++ c :: right ∧ before = unlines earlier ++ left ∧
      after = right ++ '\n' :: unlines later := by
  induction lines generalizing before with
  | nil => simp at h
  | cons line rest ih =>
    rw [unlines_cons] at h
    rcases List.append_eq_append_iff.mp h with ⟨between, rfl, hb⟩ | ⟨right, rfl, ha⟩
    · cases between with
      | nil => exact absurd (List.cons.inj hb).1.symm hc
      | cons d between =>
        obtain ⟨rfl, hrest⟩ := List.cons.inj hb
        obtain ⟨earlier, inner, later, left, right, rfl, split, rfl, rfl⟩ := ih hrest
        exact ⟨line :: earlier, inner, later, left, right, rfl, split, by simp, rfl⟩
    · cases right with
      | nil => exact absurd (List.cons.inj ha).1 hc
      | cons d right =>
        obtain ⟨rfl, rfl⟩ := List.cons.inj ha
        exact ⟨[], _, rest, before, right, rfl, rfl, rfl, rfl⟩

theorem mem_unlines {c : Char} {lines : List Text} (hc : c ≠ '\n') :
    c ∈ unlines lines ↔ ∃ line ∈ lines, c ∈ line := by
  simp [unlines, hc]

end VoidScript.Text
