import VoidScript.Directive.OfLine
import VoidScript.Proofs.Text.Search
import VoidScript.Proofs.Text.Unbroken

/-!
What the forms of directives capture.

* `captured?_eq_some_iff`, `capturedBefore?_shortest`: a capture is the shortest that lets the
  rest of its form follow;
* `exists_captured?`, `exists_capturedBefore?`: there is one as soon as any text does;
* `function?_eq`, `branch?_eq`: the two forms with two captures are one form with different marks;
* `capturedBefore?_followed?`: on one line, writing such a form anew with the same captures and
  other blanks changes neither capture;
* `ofLine_func` and the like: the keyword at the start of a line decides which form it has to have;
* `ofLine_captures`: every capture is a part of its line.
-/

namespace VoidScript.Directive

/-! ## One capture -/

theorem captured?_eq_some_iff {close : String} {s capture : Text} :
    captured? close s = some capture ↔
      (∃ rest, Text.cut? close.toList s = some (capture, rest)) ∧ '\n' ∉ capture := by
  unfold captured?
  split
  · rename_i c rest h
    by_cases hc : '\n' ∈ c
    · simp only [hc, ↓reduceIte, reduceCtorEq, h, false_iff, not_and, Option.some.injEq,
        Prod.mk.injEq]
      rintro ⟨_, rfl, -⟩
      simpa using hc
    · simp only [hc, ↓reduceIte, Option.some.injEq, h, Prod.mk.injEq]
      constructor
      · rintro rfl; exact ⟨⟨rest, rfl, rfl⟩, hc⟩
      · rintro ⟨⟨_, rfl, -⟩, -⟩; rfl
  · rename_i h
    simp [h]

theorem captured?_split {close : String} {s capture : Text} (h : captured? close s = some capture) :
    ∃ rest, s = capture ++ (close.toList ++ rest) := by
  obtain ⟨⟨rest, hcut⟩, -⟩ := captured?_eq_some_iff.mp h
  exact ⟨rest, (Text.cut?_eq_some_iff.mp hcut).1⟩

theorem captured?_of_captured? {close : String} {s capture : Text}
    (h : captured? close s = some capture) (rest : Text) :
    captured? close (capture ++ (close.toList ++ rest)) = some capture := by
  obtain ⟨⟨_, hcut⟩, hn⟩ := captured?_eq_some_iff.mp h
  exact captured?_eq_some_iff.mpr ⟨⟨rest, Text.cut?_of_cut? hcut rest⟩, hn⟩

/-- A text before the delimiter is enough for a capture. -/
theorem exists_captured? {front : Text} (hn : '\n' ∉ front) (close : String) (rest : Text) :
    ∃ capture, captured? close (front ++ (close.toList ++ rest)) = some capture := by
  obtain ⟨capture, after, hcut⟩ := Text.exists_cut? (s := front ++ (close.toList ++ rest))
    ⟨front, rest, List.append_assoc ..⟩
  obtain ⟨hs, least⟩ := Text.cut?_eq_some_iff.mp hcut
  have inside : capture <+: front :=
    List.prefix_of_prefix_length_le ⟨_, hs.symm⟩ (List.prefix_append front _) (least _ _ rfl)
  exact ⟨capture, captured?_eq_some_iff.mpr ⟨⟨after, hcut⟩, fun hc => hn (inside.subset hc)⟩⟩

theorem captured?_length_le {close : String} {front capture rest : Text}
    (h : captured? close (front ++ (close.toList ++ rest)) = some capture) :
    capture.length ≤ front.length := by
  obtain ⟨⟨after, hcut⟩, -⟩ := captured?_eq_some_iff.mp h
  exact (Text.cut?_eq_some_iff.mp hcut).2 front rest rfl

/-- On one line a delimiter is all that a capture needs. -/
theorem captured?_ne_none {close : String} {s : Text} (found : close.toList <:+: s)
    (hn : '\n' ∉ s) : captured? close s ≠ none := by
  obtain ⟨before, after, rfl⟩ := found
  have front : '\n' ∉ before := fun h => hn (by simp [h])
  obtain ⟨capture, hc⟩ := exists_captured? front close after
  rw [List.append_assoc, hc]
  simp

/-! ## Two captures -/

theorem capturedBefore?_here {close : Char} {next? : Text → Option α} {rest : Text} {found : α}
    (h : next? rest = some found) :
    capturedBefore? close next? (close :: rest) = some ([], found) := by
  simp [capturedBefore?, h]

theorem capturedBefore?_later {close c : Char} {next? : Text → Option α} {rest : Text}
    (h : c = close → next? rest = none) :
    capturedBefore? close next? (c :: rest) =
      if c = '\n' then none
      else
        (capturedBefore? close next? rest).map fun (capture, found) => (c :: capture, found) := by
  have hn : (if c = close then next? rest else none) = none := by
    split
    · exact h ‹_›
    · rfl
  simp [capturedBefore?, hn]

/-- `capture` is the shortest text before a `close` after which `next?` finds `found`. -/
def Shortest (close : Char) (next? : Text → Option α) (s capture : Text) (found : α) : Prop :=
  ∃ rest, s = capture ++ close :: rest ∧ '\n' ∉ capture ∧ next? rest = some found ∧
    ∀ a b, capture = a ++ close :: b → next? (b ++ close :: rest) = none

theorem capturedBefore?_shortest {close : Char} {next? : Text → Option α} {s capture : Text}
    {found : α} (h : capturedBefore? close next? s = some (capture, found)) :
    Shortest close next? s capture found := by
  induction s generalizing capture with
  | nil => simp [capturedBefore?] at h
  | cons c s ih =>
    by_cases here : c = close ∧ ∃ value, next? s = some value
    · obtain ⟨rfl, value, hv⟩ := here
      rw [capturedBefore?_here hv] at h
      obtain ⟨rfl, rfl⟩ : [] = capture ∧ value = found := by simpa using h
      exact ⟨s, rfl, by simp, hv, by simp⟩
    · have later : c = close → next? s = none := fun hc =>
        Option.eq_none_iff_forall_ne_some.mpr fun value hv => here ⟨hc, value, hv⟩
      rw [capturedBefore?_later later] at h
      split at h
      · cases h
      · rename_i hc
        obtain ⟨⟨cap, f⟩, hcap, he⟩ := Option.map_eq_some_iff.mp h
        obtain ⟨rfl, rfl⟩ : c :: cap = capture ∧ f = found := by simpa using he
        obtain ⟨rest, rfl, hn, hf, least⟩ := ih hcap
        refine ⟨rest, rfl, by simp [Ne.symm hc, hn], hf, ?_⟩
        intro a b hab
        cases a with
        | nil =>
          obtain ⟨rfl, rfl⟩ := List.cons.inj hab
          exact later rfl
        | cons d a => exact least a b (List.cons.inj hab).2

theorem Shortest.capturedBefore? {close : Char} {next? : Text → Option α} {s capture : Text}
    {found : α} (h : Shortest close next? s capture found) :
    capturedBefore? close next? s = some (capture, found) := by
  obtain ⟨rest, rfl, hn, hf, least⟩ := h
  induction capture with
  | nil => exact capturedBefore?_here hf
  | cons c capture ih =>
    obtain ⟨hc, hn⟩ : '\n' ≠ c ∧ '\n' ∉ capture := by simpa using hn
    have later : c = close → next? (capture ++ close :: rest) = none := by
      rintro rfl
      exact least [] capture rfl
    have hcap := ih hn fun a b hab => least (c :: a) b (by rw [hab]; rfl)
    rw [List.cons_append, capturedBefore?_later later, if_neg (Ne.symm hc), hcap]
    rfl

/-- A text before a `close` behind which `next?` succeeds is enough for a capture. -/
theorem exists_capturedBefore? {close : Char} {next? : Text → Option α} {first tail : Text}
    {found : α} (hn : '\n' ∉ first) (h : next? tail = some found) :
    ∃ result, capturedBefore? close next? (first ++ close :: tail) = some result := by
  induction first with
  | nil => exact ⟨_, capturedBefore?_here h⟩
  | cons c first ih =>
    obtain ⟨hc, hn⟩ : '\n' ≠ c ∧ '\n' ∉ first := by simpa using hn
    obtain ⟨result, hr⟩ := ih hn
    cases here : (if c = close then next? (first ++ close :: tail) else none) with
    | some value => exact ⟨([], value), by simp [capturedBefore?, here]⟩
    | none => exact ⟨_, by simp [capturedBefore?, here, Ne.symm hc, hr]; rfl⟩

/-- The text after some marks, each with blanks before it. -/
def skipTo? : List Char → Text → Option Text
  | [], s => some s
  | mark :: marks, s => (Text.after? [mark] (Text.skipBlanks s)).bind (skipTo? marks)

/-- The capture that follows some marks. -/
def followed? (marks : List Char) (close : String) (s : Text) : Option Text :=
  (skipTo? marks s).bind (captured? close)

/-- A bracket that is none of the marks is never skipped. -/
theorem skipTo?_append {marks : List Char} (hm : ']' ∉ marks) (b rest : Text) :
    skipTo? marks (b ++ ']' :: rest) = (skipTo? marks b).map (· ++ ']' :: rest) := by
  induction marks generalizing b with
  | nil => rfl
  | cons mark marks ih =>
    obtain ⟨hne, hm⟩ : ']' ≠ mark ∧ ']' ∉ marks := by simpa using hm
    have hs : Text.skipBlanks (b ++ ']' :: rest) = Text.skipBlanks b ++ ']' :: rest :=
      Text.skipBlanks_append_cons rfl b rest
    rw [skipTo?, skipTo?, hs]
    cases Text.skipBlanks b with
    | nil => simp [Text.after?, Ne.symm hne]
    | cons c tail => by_cases hc : mark = c <;> simp [Text.after?, hc, ih hm]

theorem skipTo?_isSuffix {marks : List Char} {s rest : Text} (h : skipTo? marks s = some rest) :
    rest <:+ s := by
  induction marks generalizing s with
  | nil =>
    obtain rfl : s = rest := by simpa [skipTo?] using h
    exact List.suffix_refl s
  | cons mark marks ih =>
    obtain ⟨tail, ht, h⟩ := Option.bind_eq_some_iff.mp h
    have hs : tail <:+ Text.skipBlanks s := ⟨[mark], (Text.after?_eq_some_iff.mp ht).symm⟩
    exact ((ih h).trans hs).trans (Text.skipBlanks_isSuffix s)

/-- On one line a closing bracket inside the first capture is not followed by the marks, whatever
stands after the capture; so the capture stays what it is when its surroundings are written anew. -/
theorem capturedBefore?_followed? {marks : List Char} (hm : ']' ∉ marks) {close : String}
    {s capture found between : Text} (hs : '\n' ∉ s)
    (h : capturedBefore? ']' (followed? marks close) s = some (capture, found))
    (spaced : ∀ t, skipTo? marks (between ++ t) = some t) (tail : Text) :
    capturedBefore? ']' (followed? marks close)
        (capture ++ ']' :: (between ++ (found ++ (close.toList ++ tail)))) =
      some (capture, found) := by
  obtain ⟨rest, rfl, hn, hf, least⟩ := capturedBefore?_shortest h
  obtain ⟨inner, hi, hc⟩ := Option.bind_eq_some_iff.mp hf
  apply Shortest.capturedBefore?
  refine ⟨_, rfl, hn, ?_, ?_⟩
  · rw [followed?, spaced, Option.bind_some]
    exact captured?_of_captured? hc tail
  · intro a b hab
    have unmarked : skipTo? marks b = none := by
      refine Option.eq_none_iff_forall_ne_some.mpr fun y hy => ?_
      -- Marks after this bracket would have ended the capture here.
      have hl := least a b hab
      rw [followed?, skipTo?_append hm, hy, Option.map_some, Option.bind_some] at hl
      have line : y ++ ']' :: rest <:+ capture ++ ']' :: rest := by
        obtain ⟨front, rfl⟩ := skipTo?_isSuffix hy
        exact ⟨a ++ ']' :: front, by simp [hab]⟩
      have closes : close.toList <:+: rest := by
        obtain ⟨front, rfl⟩ := skipTo?_isSuffix hi
        obtain ⟨after, rfl⟩ := captured?_split hc
        exact ⟨front ++ found, after, by simp⟩
      have later : rest <:+ y ++ ']' :: rest := ⟨y ++ [']'], by simp⟩
      exact captured?_ne_none (closes.trans later.isInfix) (fun h => hs (line.subset h)) hl
    rw [followed?, skipTo?_append hm, unmarked]
    rfl

/-! ## The forms -/

/-- The text after a keyword, blanks and an opening bracket. -/
def bracketed? (keyword : String) (line : Text) : Option Text :=
  (expect? keyword line).bind fun rest => (blanks? rest).bind (expect? "[")

theorem expect?_isSuffix {literal : String} {s rest : Text} (h : expect? literal s = some rest) :
    rest <:+ s := ⟨literal.toList, (Text.after?_eq_some_iff.mp h).symm⟩

theorem blanks?_isSuffix {s rest : Text} (h : blanks? s = some rest) : rest <:+ s := by
  cases s with
  | nil => cases h
  | cons c s =>
    simp only [blanks?] at h
    split at h
    · obtain rfl := Option.some.inj h
      exact (Text.skipBlanks_isSuffix s).trans (List.suffix_cons c s)
    · cases h

theorem bracketed?_isSuffix {keyword : String} {line inner : Text}
    (h : bracketed? keyword line = some inner) : inner <:+ line := by
  obtain ⟨rest, hr, h⟩ := Option.bind_eq_some_iff.mp h
  obtain ⟨rest', hr', h⟩ := Option.bind_eq_some_iff.mp h
  exact ((expect?_isSuffix h).trans (blanks?_isSuffix hr')).trans (expect?_isSuffix hr)

/-- A keyword, a capture in brackets, some marks and a second capture. -/
def pair? (keyword : String) (marks : List Char) (close : String) (line : Text) :
    Option (Text × Text) :=
  (bracketed? keyword line).bind (capturedBefore? ']' (followed? marks close))

theorem function?_eq (line : Text) :
    function? line =
      (pair? "func" ['('] "):" line).map fun captures => .function captures.1 captures.2 := by
  have next : followed? ['('] "):" = fun rest =>
      (expect? "(" (Text.skipBlanks rest)).bind (captured? "):") := by
    funext rest
    simp [followed?, skipTo?, expect?]
  simp only [function?, pair?, next, bracketed?, Option.bind_eq_bind, Option.bind_assoc,
    Option.map_eq_bind, Option.pure_def]
  rfl

theorem branch?_eq (line : Text) :
    branch? line =
      (pair? "if" ['=', '['] "]:" line).map fun captures => .branch captures.1 captures.2 := by
  have next : followed? ['=', '['] "]:" = fun rest =>
      (expect? "=" (Text.skipBlanks rest)).bind fun rest =>
        (expect? "[" (Text.skipBlanks rest)).bind (captured? "]:") := by
    funext rest
    simp [followed?, skipTo?, expect?, Option.bind_assoc]
  simp only [branch?, pair?, next, bracketed?, Option.bind_eq_bind, Option.bind_assoc,
    Option.map_eq_bind, Option.pure_def]
  rfl

theorem loop?_eq (line : Text) :
    loop? line = ((expect? "loop(" line).bind (captured? "):")).map .loop := by
  simp only [loop?, Option.bind_eq_bind, Option.bind_assoc, Option.map_eq_bind, Option.pure_def]
  rfl

theorem elseIf?_eq (line : Text) :
    elseIf? line = ((bracketed? "elif" line).bind (captured? "]:")).map .elseIf := by
  simp only [elseIf?, bracketed?, Option.bind_eq_bind, Option.bind_assoc, Option.map_eq_bind,
    Option.pure_def]
  rfl

theorem broadcast?_eq (line : Text) :
    broadcast? line = ((expect? "print(" line).bind (captured? ")")).map .broadcast := by
  simp only [broadcast?, Option.bind_eq_bind, Option.bind_assoc, Option.map_eq_bind,
    Option.pure_def]
  rfl

/-- The text after `def`, blanks and the mark of an event. -/
def hooked? (line : Text) : Option Text :=
  (expect? "def" line).bind fun rest => (blanks? rest).bind (expect? "on_")

/-- The event and its parameter, at the start of the text. -/
def eventAt? (s : Text) : Option Directive :=
  let event := s.takeWhile Text.isWord
  if event.isEmpty then none
  else do return .event event (← captured? "):" (← expect? "(" (s.dropWhile Text.isWord)))

theorem event?_eq (line : Text) : event? line = (hooked? line).bind eventAt? := by
  simp only [event?, hooked?, Option.bind_eq_bind, Option.bind_assoc]
  rfl

theorem hooked?_isSuffix {line rest : Text} (h : hooked? line = some rest) : rest <:+ line := by
  obtain ⟨x, hx, h⟩ := Option.bind_eq_some_iff.mp h
  obtain ⟨y, hy, h⟩ := Option.bind_eq_some_iff.mp h
  exact ((expect?_isSuffix h).trans (blanks?_isSuffix hy)).trans (expect?_isSuffix hx)

/-- An event is a run of word characters, and its parameter stands behind a parenthesis. -/
theorem eventAt?_eq_some {s : Text} {d : Directive} (h : eventAt? s = some d) :
    ∃ param rest, d = .event (s.takeWhile Text.isWord) param ∧ s.takeWhile Text.isWord ≠ [] ∧
      s.dropWhile Text.isWord = '(' :: rest ∧ captured? "):" rest = some param := by
  simp only [eventAt?] at h
  split at h
  · cases h
  · rename_i hne
    obtain ⟨rest, hr, h⟩ := Option.bind_eq_some_iff.mp h
    obtain ⟨param, hp, h⟩ := Option.bind_eq_some_iff.mp h
    obtain rfl := Option.some.inj h
    exact ⟨param, rest, rfl, by simpa using hne, Text.after?_eq_some_iff.mp hr, hp⟩

theorem eventAt?_call {name : Text} (word : ∀ c ∈ name, Text.isWord c = true) (hne : name ≠ [])
    (rest : Text) : eventAt? (name ++ '(' :: rest) = (captured? "):" rest).map (.event name) := by
  have paren : Text.isWord '(' = false := by decide +kernel
  simp only [eventAt?, List.takeWhile_append_of_pos word, List.dropWhile_append_of_pos word]
  cases h : captured? "):" rest <;> simp [paren, hne, expect?, Text.after?, h]

/-- No assignment follows the word at the start of the line. -/
theorem isCollectionLiteral_eq_false {name rest : Text} {c : Char}
    (word : ∀ d ∈ name, Text.isWord d = true) (hw : Text.isWord c = false)
    (hb : Text.isBlank c = false) (hc : c ≠ '=') :
    isCollectionLiteral (name ++ c :: rest) = false := by
  have behind : (name ++ c :: rest).dropWhile Text.isWord = c :: rest := by
    rw [List.dropWhile_append_of_pos word]
    simp [hw]
  have skipped : Text.skipBlanks (c :: rest) = c :: rest := by simp [Text.skipBlanks, hb]
  have absent : expect? "=" (c :: rest) = none := by simp [expect?, Text.after?, Ne.symm hc]
  rw [isCollectionLiteral, behind, skipped, absent]
  rfl

/-- A call is no collection literal: no assignment follows its name. -/
theorem isCollectionLiteral_call (rest : Text) :
    isCollectionLiteral ("print(".toList ++ rest) = false := by
  have name : "print".toList.all Text.isWord = true := by decide +kernel
  change isCollectionLiteral ("print".toList ++ '(' :: rest) = false
  exact isCollectionLiteral_eq_false (List.all_eq_true.mp name) (by decide +kernel) rfl (by decide)

/-- A comment mark is no identifier, so the line is no assignment. -/
theorem isCollectionLiteral_comment (rest : Text) : isCollectionLiteral ('#' :: rest) = false := by
  have nothing : ∀ d ∈ ([] : Text), Text.isWord d = true := by simp
  rw [← List.nil_append ('#' :: rest)]
  exact isCollectionLiteral_eq_false nothing (by decide +kernel) rfl (by decide)

/-! ## Each keyword leads to its own form -/

theorem ofLine_func {line : Text} (h : startsWith "func" line = true) :
    ofLine line = (function? line).getD (.dropped .function) := if_pos h

theorem ofLine_loop {line : Text} (h : startsWith "loop" line = true) :
    ofLine line = (loop? line).getD (.dropped .loop) := by
  obtain ⟨rest, rfl⟩ := List.isPrefixOf_iff_prefix.mp h
  rfl

theorem ofLine_if {line : Text} (h : startsWith "if" line = true) :
    ofLine line = (branch? line).getD (.dropped .branch) := by
  obtain ⟨rest, rfl⟩ := List.isPrefixOf_iff_prefix.mp h
  rfl

theorem ofLine_elif {line : Text} (h : startsWith "elif" line = true) :
    ofLine line = (elseIf? line).getD (.dropped .elseIf) := by
  obtain ⟨rest, rfl⟩ := List.isPrefixOf_iff_prefix.mp h
  rfl

theorem ofLine_else {line : Text} (h : startsWith "else" line = true) :
    ofLine line = .otherwise := by
  obtain ⟨rest, rfl⟩ := List.isPrefixOf_iff_prefix.mp h
  rfl

theorem ofLine_def {line : Text} (h : startsWith "def" line = true) :
    ofLine line = (event? line).getD (.dropped .event) := by
  obtain ⟨rest, rfl⟩ := List.isPrefixOf_iff_prefix.mp h
  rfl

theorem ofLine_print {line : Text} (h : startsWith "print(" line = true) :
    ofLine line = (broadcast? line).getD (.dropped .broadcast) := by
  obtain ⟨rest, rfl⟩ := List.isPrefixOf_iff_prefix.mp h
  rw [ofLine, isCollectionLiteral_call rest]
  rfl

/-! ## Captures are parts of the line -/

/-- The texts that a directive takes over from its line. -/
def captures : Directive → List Text
  | .function params name => [params, name]
  | .loop label => [label]
  | .branch left right => [left, right]
  | .elseIf condition => [condition]
  | .event name param => [name, param]
  | .broadcast message => [message]
  | .comment text | .passthrough text => [text]
  | .otherwise | .collection _ | .dropped _ => []

theorem captured?_isInfix {close : String} {s capture : Text}
    (h : captured? close s = some capture) : capture <:+: s := by
  obtain ⟨rest, rfl⟩ := captured?_split h
  exact (List.prefix_append capture _).isInfix

theorem capturedBefore?_isInfix {marks : List Char} {close : String} {s : Text}
    {found : Text × Text} (h : capturedBefore? ']' (followed? marks close) s = some found) :
    found.1 <:+: s ∧ found.2 <:+: s := by
  obtain ⟨rest, rfl, -, hf, -⟩ := capturedBefore?_shortest h
  obtain ⟨inner, hi, hc⟩ := Option.bind_eq_some_iff.mp hf
  refine ⟨(List.prefix_append found.1 _).isInfix, ?_⟩
  have tail : rest <:+ found.1 ++ ']' :: rest :=
    (List.suffix_cons ']' rest).trans (List.suffix_append found.1 _)
  exact (captured?_isInfix hc).trans ((skipTo?_isSuffix hi).trans tail).isInfix

theorem pair?_isInfix {keyword close : String} {marks : List Char} {line : Text}
    {found : Text × Text} (h : pair? keyword marks close line = some found) :
    found.1 <:+: line ∧ found.2 <:+: line := by
  obtain ⟨inner, hi, hf⟩ := Option.bind_eq_some_iff.mp h
  obtain ⟨h₁, h₂⟩ := capturedBefore?_isInfix hf
  have hs := (bracketed?_isSuffix hi).isInfix
  exact ⟨h₁.trans hs, h₂.trans hs⟩

/-- How a line comes to its directive. -/
inductive Reading (line : Text) : Directive → Prop
  | function {params name : Text} (h : pair? "func" ['('] "):" line = some (params, name)) :
      Reading line (.function params name)
  | loop {label : Text} (h : (expect? "loop(" line).bind (captured? "):") = some label) :
      Reading line (.loop label)
  | branch {left right : Text} (h : pair? "if" ['=', '['] "]:" line = some (left, right)) :
      Reading line (.branch left right)
  | elseIf {condition : Text}
      (h : (bracketed? "elif" line).bind (captured? "]:") = some condition) :
      Reading line (.elseIf condition)
  | otherwise : Reading line .otherwise
  | event {inner name param : Text} (h : hooked? line = some inner)
      (he : eventAt? inner = some (.event name param)) : Reading line (.event name param)
  | collection (kind : Collection) : Reading line (.collection kind)
  | broadcast {message : Text} (h : (expect? "print(" line).bind (captured? ")") = some message) :
      Reading line (.broadcast message)
  | comment : Reading line (.comment line)
  | passthrough : Reading line (.passthrough line)
  | dropped (family : Family) : Reading line (.dropped family)

theorem reading_map {line : Text} {form : Option α} {make : α → Directive} {family : Family}
    (h : ∀ found, form = some found → Reading line (make found)) :
    Reading line ((form.map make).getD (.dropped family)) := by
  cases form with
  | none => exact .dropped family
  | some found => exact h found rfl

theorem reading_event (line : Text) : Reading line ((event? line).getD (.dropped .event)) := by
  rw [event?_eq]
  cases h : (hooked? line).bind eventAt? with
  | none => exact .dropped .event
  | some d =>
    obtain ⟨inner, hi, he⟩ := Option.bind_eq_some_iff.mp h
    obtain ⟨param, _, rfl, -⟩ := eventAt?_eq_some he
    exact .event hi he

theorem ofLine_reading (line : Text) : Reading line (ofLine line) := by
  unfold ofLine
  split
  · rw [function?_eq]; exact reading_map fun _ => .function
  split
  · rw [loop?_eq]; exact reading_map fun _ => .loop
  split
  · rw [branch?_eq]; exact reading_map fun _ => .branch
  split
  · rw [elseIf?_eq]; exact reading_map fun _ => .elseIf
  split
  · exact .otherwise
  split
  · exact reading_event line
  split
  · exact reading_map fun kind _ => .collection kind
  split
  · rw [broadcast?_eq]; exact reading_map fun _ => .broadcast
  split
  · exact .comment
  · exact .passthrough

theorem Reading.captures {line capture : Text} {d : Directive} (reading : Reading line d)
    (hc : capture ∈ d.captures) : capture <:+: line := by
  cases reading with
  | function h | branch h =>
    obtain ⟨h₁, h₂⟩ := pair?_isInfix h
    rcases List.mem_pair.mp hc with rfl | rfl
    · exact h₁
    · exact h₂
  | loop h | broadcast h =>
    obtain ⟨inner, hi, hl⟩ := Option.bind_eq_some_iff.mp h
    obtain rfl := List.mem_singleton.mp hc
    exact (captured?_isInfix hl).trans (expect?_isSuffix hi).isInfix
  | elseIf h =>
    obtain ⟨inner, hi, hl⟩ := Option.bind_eq_some_iff.mp h
    obtain rfl := List.mem_singleton.mp hc
    exact (captured?_isInfix hl).trans (bracketed?_isSuffix hi).isInfix
  | @event inner name param h he =>
    obtain ⟨param', rest, hd, -, hr, hp⟩ := eventAt?_eq_some he
    obtain ⟨rfl, rfl⟩ := Directive.event.inj hd
    have hs := (hooked?_isSuffix h).isInfix
    rcases List.mem_pair.mp hc with rfl | rfl
    · exact (List.takeWhile_prefix Text.isWord).isInfix.trans hs
    · have behind : rest <:+ inner :=
        (List.suffix_cons '(' rest).trans (hr ▸ List.dropWhile_suffix Text.isWord)
      exact ((captured?_isInfix hp).trans behind.isInfix).trans hs
  | comment | passthrough =>
    obtain rfl := List.mem_singleton.mp hc
    exact List.infix_refl _
  | otherwise | collection | dropped => cases hc

theorem ofLine_captures {line capture : Text} (h : capture ∈ (ofLine line).captures) :
    capture <:+: line := (ofLine_reading line).captures h

end VoidScript.Directive
