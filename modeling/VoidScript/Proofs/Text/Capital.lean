import VoidScript.Proofs.Text.Bytes
import VoidScript.Proofs.Text.Search
import VoidScript.Text.Case

/-!
Capitalizing a word in place. The word is put in lower case as a whole, and the lower case of its
first character is cut off again at a byte offset that is found from that character alone.

* `meetsCased_eq_true_iff`: what the search for a cased letter finds;
* `lowerAt_lowerBetween`: so each character is mapped as the whole of the word decides;
* `lowerWord_cons`: nothing precedes the first character, so its form does not depend on the others;
* `capitalize_in_context`: hence the offset is the end of that form, and only the rest is kept.
-/

namespace VoidScript.Text.Case

/-! ## The context of a place -/

/-- Before the place and the characters that are skipped there, a cased letter stands. -/
def CasedBefore (word : Text) (i : Nat) : Prop :=
  ∃ front c skipped, word.take i = front ++ c :: skipped ∧
    (∀ d ∈ skipped, isIgnorable d = true) ∧ isIgnorable c = false ∧ isCased c = true

/-- Behind the place and the characters that are skipped there, a cased letter stands. -/
def CasedAfter (word : Text) (i : Nat) : Prop :=
  ∃ skipped c back, word.drop (i + 1) = skipped ++ c :: back ∧
    (∀ d ∈ skipped, isIgnorable d = true) ∧ isIgnorable c = false ∧ isCased c = true

def smallSigma : Char := Char.ofNat 0x03C3

/-- The lower case of the character at a place of the word. -/
inductive LowerAt (word : Text) (i : Nat) : Text → Prop
  | final : word[i]? = some capitalSigma → CasedBefore word i → ¬ CasedAfter word i →
      LowerAt word i [finalSigma]
  | inner : word[i]? = some capitalSigma → ¬ (CasedBefore word i ∧ ¬ CasedAfter word i) →
      LowerAt word i [smallSigma]
  | other {c : Char} : word[i]? = some c → c ≠ capitalSigma → LowerAt word i (lower c)

theorem lower_capitalSigma : lower capitalSigma = [smallSigma] := by decide +kernel

theorem meetsCased_eq_true_iff {s : Text} :
    meetsCased s = true ↔ ∃ skipped c back, s = skipped ++ c :: back ∧
      (∀ d ∈ skipped, isIgnorable d = true) ∧ isIgnorable c = false ∧ isCased c = true := by
  constructor
  · intro h
    have whole := List.takeWhile_append_dropWhile (p := isIgnorable) (l := s)
    unfold meetsCased at h
    split at h
    · rename_i c back stopped
      rw [stopped] at whole
      have here : isIgnorable c = false := by
        simpa [stopped] using List.head?_dropWhile_not isIgnorable s
      exact ⟨_, c, back, whole.symm, List.all_eq_true.mp List.all_takeWhile, here, h⟩
    · cases h
  · rintro ⟨skipped, c, back, rfl, skip, here, hc⟩
    have stop : ∀ d, (c :: back).head? = some d → isIgnorable d = false := by simpa using here
    rw [meetsCased, (run_exact skip stop).2]
    exact hc

theorem meetsCased_reverse_take (word : Text) (i : Nat) :
    meetsCased (word.take i).reverse = true ↔ CasedBefore word i := by
  rw [meetsCased_eq_true_iff]
  constructor
  · rintro ⟨skipped, c, back, split, skip, hc⟩
    refine ⟨back.reverse, c, skipped.reverse, ?_, by simpa using skip, hc⟩
    rw [← List.reverse_reverse (word.take i), split]
    simp
  · rintro ⟨front, c, skipped, split, skip, hc⟩
    exact ⟨skipped.reverse, c, front.reverse, by simp [split], by simpa using skip, hc⟩

theorem meetsCased_drop (word : Text) (i : Nat) :
    meetsCased (word.drop (i + 1)) = true ↔ CasedAfter word i :=
  meetsCased_eq_true_iff

theorem lowerAt_lowerBetween {word : Text} {i : Nat} {c : Char} (h : word[i]? = some c) :
    LowerAt word i (lowerBetween (word.take i).reverse c (word.drop (i + 1))) := by
  have context : meetsCased (word.take i).reverse = true ∧ meetsCased (word.drop (i + 1)) = false ↔
      CasedBefore word i ∧ ¬ CasedAfter word i := by
    rw [← meetsCased_reverse_take, ← meetsCased_drop, Bool.not_eq_true]
  unfold lowerBetween
  split
  · rename_i last
    obtain ⟨rfl, last⟩ := last
    obtain ⟨before, after⟩ := context.mp last
    exact .final h before after
  · rename_i inside
    by_cases hc : c = capitalSigma
    · subst hc
      rw [lower_capitalSigma]
      exact .inner h fun last => inside ⟨rfl, context.mpr last⟩
    · exact .other h hc

/-! ## The forms of a word -/

/-- The lower case of each character, behind the text before, nearest character first. -/
def lowerForms (before : Text) : Text → List Text
  | [] => []
  | c :: after => lowerBetween before c after :: lowerForms (c :: before) after

theorem flatten_lowerForms (before s : Text) : (lowerForms before s).flatten = lowerFrom before s := by
  induction s generalizing before with
  | nil => rfl
  | cons c after ih => rw [lowerForms, List.flatten_cons, ih, lowerFrom]

theorem length_lowerForms (before s : Text) : (lowerForms before s).length = s.length := by
  induction s generalizing before with
  | nil => rfl
  | cons c after ih => rw [lowerForms, List.length_cons, ih, List.length_cons]

theorem getElem?_lowerForms (before s : Text) (i : Nat) :
    (lowerForms before s)[i]? =
      s[i]?.map fun c => lowerBetween ((s.take i).reverse ++ before) c (s.drop (i + 1)) := by
  -- The text before grows at its front by each character passed, so it is the reversed part of `s`.
  induction s generalizing before i with
  | nil => rfl
  | cons c after ih =>
    cases i with
    | zero => simp [lowerForms]
    | succ i => simp [lowerForms, ih]

theorem lowerWord_cons (c : Char) (rest : Text) :
    lowerWord (c :: rest) = lower c ++ lowerFrom [c] rest := by
  -- No letter is met before the first character, so it is no final sigma.
  have first : lowerBetween [] c rest = lower c := if_neg fun h => by cases h.2.1
  rw [lowerWord, lowerFrom, first]

theorem capitalize_cons (c : Char) (rest : Text) :
    capitalize (c :: rest) = title c ++ lowerFrom [c] rest := by
  rw [capitalize, lowerWord_cons, List.drop_left]

/-- The word in lower case is cut at the byte length of its first character's lower case. There is
no result if that is beyond the end or inside a character. -/
def capitalizeInPlace? : Text → Option Text
  | [] => some []
  | c :: rest =>
      (divide? (byteLength (lower c)) (lowerWord (c :: rest))).map fun (_, tail) => title c ++ tail

/-- A word is capitalized without a spoiled cut, and its other characters are put in lower case as
the whole of the word decides. -/
theorem capitalize_in_context (word : Text) :
    capitalizeInPlace? word = some (capitalize word) ∧
    ∀ c rest, word = c :: rest →
      byteLength (lower c) ≤ (bytes (lowerWord word)).length ∧
      ∃ forms : List Text, forms.length = rest.length ∧
        (∀ i form, forms[i]? = some form → LowerAt word (i + 1) form) ∧
        divide? (byteLength (lower c)) (lowerWord word) = some (lower c, forms.flatten) ∧
        capitalize word = title c ++ forms.flatten := by
  cases word with
  | nil => exact ⟨rfl, by simp⟩
  | cons c rest =>
    have cut : divide? (byteLength (lower c)) (lowerWord (c :: rest)) =
        some (lower c, lowerFrom [c] rest) := by
      rw [lowerWord_cons, divide?_append]
    refine ⟨by rw [capitalizeInPlace?, cut, capitalize_cons]; rfl, ?_⟩
    rintro _ _ ⟨rfl, rfl⟩
    refine ⟨?_, lowerForms [c] rest, length_lowerForms [c] rest, ?_, ?_, ?_⟩
    · rw [lowerWord_cons, length_bytes, byteLength_append]
      exact Nat.le_add_right ..
    · intro i form h
      rw [getElem?_lowerForms] at h
      obtain ⟨d, hd, rfl⟩ := Option.map_eq_some_iff.mp h
      have here : (c :: rest)[i + 1]? = some d := by simpa using hd
      simpa using lowerAt_lowerBetween here
    · rw [flatten_lowerForms, cut]
    · rw [flatten_lowerForms, capitalize_cons]

/-- The first character becomes two, and of two capital sigmas around a dot, which is skipped, the
second is the last letter. -/
theorem capitalize_in_context_around_dot :
    let word := "\u0130\u03a3.\u03a3".toList
    capitalizeInPlace? word = some "\u0130\u03c3.\u03c2".toList ∧
    ∃ forms : List Text, forms.length = 3 ∧ forms.flatten = "\u03c3.\u03c2".toList ∧
      ∀ i form, forms[i]? = some form → LowerAt word (i + 1) form := by
  intro word
  obtain ⟨inPlace, tail⟩ := capitalize_in_context word
  obtain ⟨-, forms, count, context, -, result⟩ := tail _ _ rfl
  have text : capitalize word = "\u0130\u03c3.\u03c2".toList := by decide +kernel
  refine ⟨inPlace.trans (congrArg some text), forms, count, ?_, context⟩
  rw [text] at result
  have first : title (Char.ofNat 0x130) = [Char.ofNat 0x130] := by decide +kernel
  exact List.append_cancel_left (result.symm.trans (congrArg (· ++ _) first))

end VoidScript.Text.Case
