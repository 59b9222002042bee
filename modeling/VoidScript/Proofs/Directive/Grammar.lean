import VoidScript.Proofs.Directive.Capture
import VoidScript.Proofs.Text.Blank

/-!
The forms with two captures as grammars. A line may be divided in several ways, since a captured
text may hold brackets, marks and colons; reading takes the shortest first text that leaves a
complete form behind it, and then the shortest second text.

* `pair_iff`: a division of a line, in terms of the functions that read one;
* `pair?_least`, `exists_pair?`: what is read is the least division, and there is one as soon as
  there is any;
* `two_captures_exact`: hence functions and branches are read exactly by their grammars.
-/

namespace VoidScript.Directive

open Text (Blank Solid)

/-! ## Grammars -/

/-- The marks in their order, each with blanks before it. -/
inductive Marked : List Char → Text → Prop
  | nil : Marked [] []
  | cons {mark : Char} {marks : List Char} {blanks rest : Text} (h : Blank blanks)
      (later : Marked marks rest) : Marked (mark :: marks) (blanks ++ mark :: rest)

/-- The line is the keyword, blanks, the first text in brackets, the marks, the second text, its
end, and anything. -/
def Pair (keyword : String) (marks : List Char) (close : String) (line first second : Text) :
    Prop :=
  ∃ blanks between rest, blanks ≠ [] ∧ Blank blanks ∧ Marked marks between ∧
    '\n' ∉ first ∧ '\n' ∉ second ∧
    line = keyword.toList ++ (blanks ++ '[' ::
      (first ++ ']' :: (between ++ (second ++ (close.toList ++ rest)))))

/-- The first text is the shortest of all, and the second is the shortest behind such a first. -/
def Least (form : Text → Text → Prop) (first second : Text) : Prop :=
  form first second ∧ ∀ a b, form a b →
    first.length < a.length ∨ first.length = a.length ∧ second.length ≤ b.length

/-! ## Reading a division of the line -/

theorem blanks?_eq_some_iff {s rest : Text} (hr : Text.skipBlanks rest = rest) :
    blanks? s = some rest ↔ ∃ blanks, blanks ≠ [] ∧ Blank blanks ∧ s = blanks ++ rest := by
  cases s with
  | nil =>
    simp only [blanks?, reduceCtorEq, false_iff]
    rintro ⟨blanks, hne, -, h⟩
    exact hne (List.append_eq_nil_iff.mp h.symm).1
  | cons c s =>
    by_cases hc : Text.isBlank c = true
    · rw [blanks?, if_pos hc, Option.some.injEq]
      constructor
      · rintro rfl
        obtain ⟨blanks, hb, hs⟩ := Text.exists_skipBlanks s
        refine ⟨c :: blanks, by simp, List.forall_mem_cons.mpr ⟨hc, hb⟩, ?_⟩
        rw [List.cons_append, ← hs]
      · rintro ⟨blanks, hne, hb, h⟩
        obtain ⟨d, blanks, rfl⟩ := List.exists_cons_of_ne_nil hne
        obtain ⟨rfl, rfl⟩ : c = d ∧ s = blanks ++ rest := by simpa using h
        rw [Text.skipBlanks_append (List.forall_mem_cons.mp hb).2, hr]
    · rw [blanks?, if_neg hc]
      simp only [reduceCtorEq, false_iff]
      rintro ⟨blanks, hne, hb, h⟩
      obtain ⟨d, blanks, rfl⟩ := List.exists_cons_of_ne_nil hne
      obtain ⟨rfl, -⟩ := List.cons.inj h
      exact hc (hb c List.mem_cons_self)

theorem bracketed?_eq_some_iff {keyword : String} {line inner : Text} :
    bracketed? keyword line = some inner ↔
      ∃ blanks, blanks ≠ [] ∧ Blank blanks ∧
        line = keyword.toList ++ (blanks ++ '[' :: inner) := by
  have bracket (t : Text) : Text.skipBlanks ('[' :: t) = '[' :: t := Text.skipBlanks_cons rfl t
  simp only [bracketed?, expect?, Option.bind_eq_some_iff, Text.after?_eq_some_iff]
  constructor
  · rintro ⟨rest, rfl, _, found, rfl⟩
    obtain ⟨blanks, hne, hb, rfl⟩ := (blanks?_eq_some_iff (bracket inner)).mp found
    exact ⟨blanks, hne, hb, rfl⟩
  · rintro ⟨blanks, hne, hb, rfl⟩
    exact ⟨_, rfl, _, (blanks?_eq_some_iff (bracket inner)).mpr ⟨blanks, hne, hb, rfl⟩, rfl⟩

theorem hooked?_eq_some_iff {line inner : Text} :
    hooked? line = some inner ↔
      ∃ blanks, blanks ≠ [] ∧ Blank blanks ∧
        line = "def".toList ++ (blanks ++ ("on_".toList ++ inner)) := by
  have mark (t : Text) : Text.skipBlanks ("on_".toList ++ t) = "on_".toList ++ t :=
    Text.skipBlanks_cons rfl _
  simp only [hooked?, expect?, Option.bind_eq_some_iff, Text.after?_eq_some_iff]
  constructor
  · rintro ⟨rest, rfl, _, found, rfl⟩
    obtain ⟨blanks, hne, hb, rfl⟩ := (blanks?_eq_some_iff (mark inner)).mp found
    exact ⟨blanks, hne, hb, rfl⟩
  · rintro ⟨blanks, hne, hb, rfl⟩
    exact ⟨_, rfl, _, (blanks?_eq_some_iff (mark inner)).mpr ⟨blanks, hne, hb, rfl⟩, rfl⟩

theorem skipTo?_eq_some_iff {marks : List Char} (solid : Solid marks) {s rest : Text} :
    skipTo? marks s = some rest ↔ ∃ between, Marked marks between ∧ s = between ++ rest := by
  induction marks generalizing s with
  | nil =>
    simp only [skipTo?, Option.some.injEq]
    constructor
    · rintro rfl
      exact ⟨[], .nil, rfl⟩
    · rintro ⟨_, ⟨⟩, rfl⟩
      rfl
  | cons mark marks ih =>
    obtain ⟨hm, hms⟩ := List.forall_mem_cons.mp solid
    simp only [skipTo?, Option.bind_eq_some_iff, Text.after?_eq_some_iff]
    constructor
    · rintro ⟨tail, ht, h⟩
      obtain ⟨between, marked, rfl⟩ := (ih hms).mp h
      obtain ⟨blanks, hb, hs⟩ := Text.exists_skipBlanks s
      refine ⟨_, .cons hb marked, ?_⟩
      rw [hs, ht]
      simp
    · rintro ⟨_, marked, rfl⟩
      cases marked with
      | cons hb later =>
        refine ⟨_, ?_, (ih hms).mpr ⟨_, later, rfl⟩⟩
        rw [List.append_assoc, Text.skipBlanks_append hb, List.cons_append,
          Text.skipBlanks_cons hm]
        rfl

/-- A division of the line, in terms of the functions that read one. -/
theorem pair_iff {keyword close : String} {marks : List Char} (solid : Solid marks)
    {line first second : Text} :
    Pair keyword marks close line first second ↔
      ∃ tail behind rest, bracketed? keyword line = some (first ++ ']' :: tail) ∧
        skipTo? marks tail = some behind ∧ behind = second ++ (close.toList ++ rest) ∧
        '\n' ∉ first ∧ '\n' ∉ second := by
  constructor
  · rintro ⟨blanks, between, rest, hne, hb, marked, hf, hs, rfl⟩
    refine ⟨_, _, rest, bracketed?_eq_some_iff.mpr ⟨blanks, hne, hb, rfl⟩, ?_, rfl, hf, hs⟩
    exact (skipTo?_eq_some_iff solid).mpr ⟨between, marked, rfl⟩
  · rintro ⟨tail, _, rest, hline, hskip, rfl, hf, hs⟩
    obtain ⟨blanks, hne, hb, rfl⟩ := bracketed?_eq_some_iff.mp hline
    obtain ⟨between, marked, rfl⟩ := (skipTo?_eq_some_iff solid).mp hskip
    exact ⟨blanks, between, rest, hne, hb, marked, hf, hs, rfl⟩

/-! ## What is read is the least division -/

/-- Of two places at which the same character stands, the later one has the earlier one before it. -/
theorem exists_between {c : Char} {s t s' t' : Text} (h : s ++ c :: t = s' ++ c :: t')
    (shorter : s'.length < s.length) : ∃ more, s = s' ++ c :: more ∧ t' = more ++ c :: t := by
  rcases List.append_eq_append_iff.mp h with ⟨more, rfl, -⟩ | ⟨more, rfl, hm⟩
  · simp only [List.length_append] at shorter
    omega
  · cases more with
    | nil => simp at shorter
    | cons d more =>
      obtain ⟨rfl, rfl⟩ : c = d ∧ t' = more ++ c :: t := by simpa using hm
      exact ⟨more, rfl, rfl⟩

theorem pair?_least {keyword close : String} {marks : List Char} (solid : Solid marks)
    {line first second : Text} (h : pair? keyword marks close line = some (first, second)) :
    Least (Pair keyword marks close line) first second := by
  obtain ⟨inner, hi, hf⟩ := Option.bind_eq_some_iff.mp h
  obtain ⟨tail, rfl, hn, hs, least⟩ := capturedBefore?_shortest hf
  obtain ⟨behind, hb, hc⟩ := Option.bind_eq_some_iff.mp hs
  obtain ⟨rest, hrest⟩ := captured?_split hc
  have hn' : '\n' ∉ second := (captured?_eq_some_iff.mp hc).2
  refine ⟨(pair_iff solid).mpr ⟨tail, behind, rest, hi, hb, hrest, hn, hn'⟩, fun a b hab => ?_⟩
  obtain ⟨tail', _, rest', hi', hb', rfl, -, hbn⟩ := (pair_iff solid).mp hab
  have same : first ++ ']' :: tail = a ++ ']' :: tail' := Option.some.inj (hi.symm.trans hi')
  rcases Nat.lt_trichotomy first.length a.length with longer | equal | shorter
  · exact .inl longer
  · -- The first texts are the same, so both second texts stand at the same place.
    obtain ⟨rfl, ht⟩ := List.append_inj same equal
    obtain ⟨-, rfl⟩ := List.cons.inj ht
    obtain rfl : behind = b ++ (close.toList ++ rest') := Option.some.inj (hb.symm.trans hb')
    exact .inr ⟨rfl, captured?_length_le hc⟩
  · -- The form is complete behind the shorter text, so reading would have stopped there.
    obtain ⟨more, hfirst, rfl⟩ := exists_between same shorter
    obtain ⟨capture, found⟩ := exists_captured? hbn close rest'
    have absent := least a more hfirst
    rw [followed?, hb', Option.bind_some, found] at absent
    cases absent

theorem exists_pair? {keyword close : String} {marks : List Char} (solid : Solid marks)
    {line first second : Text} (h : Pair keyword marks close line first second) :
    ∃ found, pair? keyword marks close line = some found := by
  obtain ⟨tail, _, rest, hi, hb, rfl, hn, hn'⟩ := (pair_iff solid).mp h
  obtain ⟨capture, hc⟩ := exists_captured? hn' close rest
  have next : followed? marks close tail = some capture := by
    rw [followed?, hb, Option.bind_some, hc]
  rw [pair?, hi, Option.bind_some]
  exact exists_capturedBefore? hn next

/-- The lengths of its texts determine a division. -/
theorem Pair.unique {keyword close : String} {marks : List Char} (solid : Solid marks)
    {line first second a b : Text} (h : Pair keyword marks close line first second)
    (h' : Pair keyword marks close line a b) (hf : first.length = a.length)
    (hs : second.length = b.length) : first = a ∧ second = b := by
  obtain ⟨tail, _, rest, hi, hb, rfl, -⟩ := (pair_iff solid).mp h
  obtain ⟨tail', _, rest', hi', hb', rfl, -⟩ := (pair_iff solid).mp h'
  obtain ⟨rfl, ht⟩ := List.append_inj (Option.some.inj (hi.symm.trans hi')) hf
  obtain ⟨-, rfl⟩ := List.cons.inj ht
  exact ⟨rfl, (List.append_inj (Option.some.inj (hb.symm.trans hb')) hs).1⟩

theorem pair?_eq_some_iff {keyword close : String} {marks : List Char} (solid : Solid marks)
    {line first second : Text} :
    pair? keyword marks close line = some (first, second) ↔
      Least (Pair keyword marks close line) first second := by
  refine ⟨pair?_least solid, fun least => ?_⟩
  obtain ⟨⟨a, b⟩, found⟩ := exists_pair? solid least.1
  have least' := pair?_least solid found
  have lengths : first.length = a.length ∧ second.length = b.length := by
    have := least.2 a b least'.1
    have := least'.2 first second least.1
    omega
  obtain ⟨rfl, rfl⟩ := least.1.unique solid least'.1 lengths.1 lengths.2
  exact found

theorem pair?_eq_none_iff {keyword close : String} {marks : List Char} (solid : Solid marks)
    {line : Text} :
    pair? keyword marks close line = none ↔
      ∀ first second, ¬ Pair keyword marks close line first second := by
  constructor
  · intro none first second h
    obtain ⟨found, hf⟩ := exists_pair? solid h
    rw [none] at hf
    cases hf
  · intro absent
    refine Option.eq_none_iff_forall_ne_some.mpr fun found hf => ?_
    exact absent _ _ (pair?_least solid hf).1

/-! ## Functions and branches -/

/-- The form of a function, `func [params](name):`. There are blanks before the first bracket, and
there may be some before the parenthesis. -/
def FunctionForm (line params name : Text) : Prop :=
  ∃ w₁ w₂ rest, w₁ ≠ [] ∧ Blank w₁ ∧ Blank w₂ ∧ '\n' ∉ params ∧ '\n' ∉ name ∧
    line = "func".toList ++ w₁ ++ "[".toList ++ params ++ "]".toList ++ w₂ ++ "(".toList ++ name
      ++ "):".toList ++ rest

/-- The form of a branch, `if [left] = [right]:`. There are blanks before the first bracket, and
there may be some on both sides of the equals sign. -/
def BranchForm (line left right : Text) : Prop :=
  ∃ w₁ w₂ w₃ rest, w₁ ≠ [] ∧ Blank w₁ ∧ Blank w₂ ∧ Blank w₃ ∧ '\n' ∉ left ∧ '\n' ∉ right ∧
    line = "if".toList ++ w₁ ++ "[".toList ++ left ++ "]".toList ++ w₂ ++ "=".toList ++ w₃
      ++ "[".toList ++ right ++ "]:".toList ++ rest

theorem functionForm_eq (line : Text) : FunctionForm line = Pair "func" ['('] "):" line := by
  funext params name
  refine propext ⟨?_, ?_⟩
  · rintro ⟨w₁, w₂, rest, hne, h₁, h₂, hp, hn, rfl⟩
    exact ⟨w₁, _, rest, hne, h₁, .cons h₂ .nil, hp, hn, by simp⟩
  · rintro ⟨w₁, between, rest, hne, h₁, marked, hp, hn, rfl⟩
    cases marked with
    | cons h₂ later =>
      cases later
      exact ⟨w₁, _, rest, hne, h₁, h₂, hp, hn, by simp⟩

theorem branchForm_eq (line : Text) : BranchForm line = Pair "if" ['=', '['] "]:" line := by
  funext left right
  refine propext ⟨?_, ?_⟩
  · rintro ⟨w₁, w₂, w₃, rest, hne, h₁, h₂, h₃, hl, hr, rfl⟩
    exact ⟨w₁, _, rest, hne, h₁, .cons h₂ (.cons h₃ .nil), hl, hr, by simp⟩
  · rintro ⟨w₁, between, rest, hne, h₁, marked, hl, hr, rfl⟩
    cases marked with
    | cons h₂ later =>
      cases later with
      | cons h₃ last =>
        cases last
        exact ⟨w₁, _, _, rest, hne, h₁, h₂, h₃, hl, hr, by simp⟩

/-- A line is read by a form with two captures, and dropped where it lacks it. -/
structure ReadBy (form : Text → Text → Prop) (make : Text → Text → Directive) (family : Family)
    (line : Text) : Prop where
  least : ∀ first second, ofLine line = make first second ↔ Least form first second
  complete : (∃ first second, form first second) → ∃ first second, ofLine line = make first second
  dropped : ofLine line = .dropped family ↔ ¬ ∃ first second, form first second

theorem readBy_pair {keyword close : String} {marks : List Char} (solid : Solid marks)
    {make : Text → Text → Directive} {family : Family} {line : Text}
    (injective : ∀ {a b c d}, make a b = make c d → a = c ∧ b = d)
    (kept : ∀ a b, make a b ≠ .dropped family)
    (read : ofLine line = ((pair? keyword marks close line).map
      fun captures => make captures.1 captures.2).getD (.dropped family)) :
    ReadBy (Pair keyword marks close line) make family line := by
  cases found : pair? keyword marks close line with
  | none =>
    have absent := (pair?_eq_none_iff solid).mp found
    have dropped : ofLine line = .dropped family := by rw [read, found]; rfl
    rw [← dropped] at kept
    refine ⟨fun a b => ?_, fun ⟨a, b, h⟩ => absurd h (absent a b), ?_⟩
    · exact iff_of_false (kept a b).symm fun h => absent a b h.1
    · exact iff_of_true dropped fun ⟨a, b, h⟩ => absent a b h
  | some captures =>
    obtain ⟨first, second⟩ := captures
    have least := (pair?_eq_some_iff solid).mp found
    have made : ofLine line = make first second := by rw [read, found]; rfl
    refine ⟨fun a b => ?_, fun _ => ⟨first, second, made⟩, ?_⟩
    · rw [← pair?_eq_some_iff solid, found, made, Option.some.injEq, Prod.mk.injEq]
      exact ⟨injective, fun ⟨ha, hb⟩ => by rw [ha, hb]⟩
    · rw [made]
      exact iff_of_false (kept first second) (not_not_intro ⟨first, second, least.1⟩)

/-- Functions and branches are read exactly by their grammars: of all divisions of a line that its
grammar allows, the one with the shortest first text and then the shortest second text is taken,
and the line is dropped where there is none. A keyword decides which grammar applies. -/
theorem two_captures_exact (line : Text) :
    (startsWith "func" line = true → ReadBy (FunctionForm line) .function .function line) ∧
    (startsWith "if" line = true →
      startsWith "func" line = false ∧ startsWith "loop" line = false ∧
        ReadBy (BranchForm line) .branch .branch line) := by
  constructor
  · intro keyword
    rw [functionForm_eq]
    refine readBy_pair (by decide) Directive.function.inj (by simp) ?_
    rw [ofLine, if_pos keyword, function?_eq]
  · intro keyword
    obtain ⟨rest, rfl⟩ := List.isPrefixOf_iff_prefix.mp keyword
    refine ⟨rfl, rfl, ?_⟩
    rw [branchForm_eq]
    refine readBy_pair (by decide) Directive.branch.inj (by simp) ?_
    rw [← branch?_eq]
    rfl

/-- In both lines the first closing bracket would end a shorter text. Behind the one, no name ends on
the same line; behind the other, no second bracket opens. -/
theorem two_captures_exact_after_backtracking :
    let function := "func [a](x]\n(b):".toList
    let branch := "if\n[a] = x]\t=\n[b]: c]:".toList
    (startsWith "func" function = true ∧
      ofLine function = .function "a](x".toList "b".toList ∧
      Least (FunctionForm function) "a](x".toList "b".toList) ∧
    startsWith "if" branch = true ∧
      ofLine branch = .branch "a] = x".toList "b".toList ∧
      Least (BranchForm branch) "a] = x".toList "b".toList := by
  intro function branch
  have func : startsWith "func" function = true := by decide
  have cond : startsWith "if" branch = true := by decide
  have named : ofLine function = .function "a](x".toList "b".toList := by decide +kernel
  have sided : ofLine branch = .branch "a] = x".toList "b".toList := by decide +kernel
  obtain ⟨functions, -⟩ := two_captures_exact function
  obtain ⟨-, branches⟩ := two_captures_exact branch
  exact ⟨⟨func, named, ((functions func).least _ _).mp named⟩,
    cond, sided, ((branches cond).2.2.least _ _).mp sided⟩

end VoidScript.Directive
