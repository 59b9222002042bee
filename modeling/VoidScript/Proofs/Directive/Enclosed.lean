import Mathlib.Data.List.Infix
import VoidScript.Proofs.Directive.Grammar

/-!
The forms with one searched end as grammars. The text that such a form encloses goes on to the
first place where its end stands, and no further; so a line can be divided in one way only.

* `captured?_eq_some_iff_of_not_mem`: what is captured holds neither a line feed nor its own end;
* `loop?_eq_some_iff`, `elseIf?_eq_some_iff`, `event?_eq_some_iff`, `broadcast?_eq_some_iff`: each
  form is read exactly from its divisions;
* `readUniquely`: hence a line that a keyword starts has at most one division, and is dropped where
  it has none.
-/

namespace VoidScript.Directive

open Text (Blank)

/-! ## Grammars -/

/-- The text holds no line feed and not the end of its form. It may still end with the first
character of the end, as `a)` does in `a)):`. -/
def Encloses (close : String) (text : Text) : Prop := '\n' ∉ text ∧ ¬ close.toList <:+: text

instance (close : String) (text : Text) : Decidable (Encloses close text) :=
  inferInstanceAs (Decidable (_ ∧ _))

/-- The form of a loop, `loop(label):`, and of a message to all players, `print(message)`. -/
def CallForm (opening close : String) (line text rest : Text) : Prop :=
  Encloses close text ∧ line = opening.toList ++ text ++ close.toList ++ rest

/-- The form of a further branch, `elif [condition]:`, with blanks before the bracket. -/
def ElseIfForm (line condition : Text) : Text × Text → Prop
  | (blanks, rest) =>
    blanks ≠ [] ∧ Blank blanks ∧ Encloses "]:" condition ∧
      line = "elif".toList ++ blanks ++ "[".toList ++ condition ++ "]:".toList ++ rest

/-- The form of an event, `def on_event(param):`, where the event is a run of word characters. -/
def EventForm (line : Text) : Text × Text → Text × Text → Prop
  | (name, param), (blanks, rest) =>
    blanks ≠ [] ∧ Blank blanks ∧ name ≠ [] ∧ (∀ c ∈ name, Text.isWord c = true) ∧
      Encloses "):" param ∧
      line = "def".toList ++ blanks ++ "on_".toList ++ name ++ "(".toList ++ param
        ++ "):".toList ++ rest

/-- A line is read by a form that divides it into captures and the text around them. There is at
most one division, and the line is dropped where there is none. -/
structure ReadUniquely (form : α → β → Prop) (make : α → Directive) (family : Family)
    (line : Text) : Prop where
  exact : ∀ captures, ofLine line = make captures ↔ ∃ around, form captures around
  dropped : ofLine line = .dropped family ↔ ¬ ∃ captures around, form captures around
  unique : ∀ captures captures' around around', form captures around →
    form captures' around' → captures = captures' ∧ around = around'

/-! ## Captures up to the first end -/

theorem captured?_eq_some_iff_of_not_mem (close : String) {c : Char} {tail : Text}
    (hclose : close.toList = c :: tail) (hc : c ∉ tail) {s capture : Text} :
    captured? close s = some capture ↔
      Encloses close capture ∧ ∃ rest, s = capture ++ (close.toList ++ rest) := by
  rw [captured?_eq_some_iff, Encloses, hclose]
  simp only [Text.cut?_eq_some_iff_of_not_mem hc, List.cons_append]
  constructor
  · rintro ⟨⟨rest, hs, absent⟩, hn⟩
    exact ⟨⟨hn, absent⟩, rest, hs⟩
  · rintro ⟨⟨hn, absent⟩, rest, hs⟩
    exact ⟨⟨rest, hs, absent⟩, hn⟩

/-- A capture behind an opening. -/
theorem opened_eq_some_iff (close : String) {c : Char} {tail : Text}
    (hclose : close.toList = c :: tail) (hc : c ∉ tail) {open? : Text → Option Text}
    {line capture : Text} :
    (open? line).bind (captured? close) = some capture ↔
      Encloses close capture ∧ ∃ rest, open? line = some (capture ++ (close.toList ++ rest)) := by
  rw [Option.bind_eq_some_iff]
  simp only [captured?_eq_some_iff_of_not_mem close hclose hc]
  constructor
  · rintro ⟨_, opened, closed, rest, rfl⟩
    exact ⟨closed, rest, opened⟩
  · rintro ⟨closed, rest, opened⟩
    exact ⟨_, opened, closed, rest, rfl⟩

theorem expect?_eq_some_iff {literal : String} {s rest : Text} :
    expect? literal s = some rest ↔ s = literal.toList ++ rest := Text.after?_eq_some_iff

theorem called_eq_some_iff (opening close : String) {c : Char} {tail : Text}
    (hclose : close.toList = c :: tail) (hc : c ∉ tail) {line text : Text} :
    (expect? opening line).bind (captured? close) = some text ↔
      ∃ rest, CallForm opening close line text rest := by
  rw [opened_eq_some_iff close hclose hc]
  simp only [expect?_eq_some_iff, CallForm, exists_and_left, List.append_assoc]

/-! ## Each form -/

theorem loop?_eq_some_iff {line : Text} {directive : Directive} :
    loop? line = some directive ↔
      ∃ label, directive = .loop label ∧ ∃ rest, CallForm "loop(" "):" line label rest := by
  rw [loop?_eq, Option.map_eq_some_iff]
  simp only [called_eq_some_iff "loop(" "):" rfl (by decide), and_comm, eq_comm]

theorem elseIf?_eq_some_iff {line : Text} {directive : Directive} :
    elseIf? line = some directive ↔
      ∃ condition, directive = .elseIf condition ∧ ∃ around, ElseIfForm line condition around := by
  rw [elseIf?_eq, Option.map_eq_some_iff]
  simp only [opened_eq_some_iff "]:" rfl (by decide), bracketed?_eq_some_iff]
  constructor
  · rintro ⟨condition, ⟨closed, rest, blanks, hne, hb, rfl⟩, rfl⟩
    exact ⟨condition, rfl, (blanks, rest), hne, hb, closed, by simp⟩
  · rintro ⟨condition, rfl, ⟨blanks, rest⟩, hne, hb, closed, rfl⟩
    exact ⟨condition, ⟨closed, rest, blanks, hne, hb, by simp⟩, rfl⟩

theorem broadcast?_eq_some_iff {line : Text} {directive : Directive} :
    broadcast? line = some directive ↔
      ∃ message, directive = .broadcast message ∧ ∃ rest, CallForm "print(" ")" line message rest := by
  rw [broadcast?_eq, Option.map_eq_some_iff]
  simp only [called_eq_some_iff "print(" ")" rfl (by decide), and_comm, eq_comm]

/-- The event ends at the parenthesis, which is no word character. -/
theorem eventAt?_eq_some_iff {s : Text} {directive : Directive} :
    eventAt? s = some directive ↔
      ∃ event param rest, directive = .event event param ∧ event ≠ [] ∧
        (∀ c ∈ event, Text.isWord c = true) ∧ Encloses "):" param ∧
        s = event ++ '(' :: (param ++ ("):".toList ++ rest)) := by
  constructor
  · intro h
    obtain ⟨param, behind, rfl, hne, paren, captured⟩ := eventAt?_eq_some h
    obtain ⟨closed, rest, rfl⟩ :=
      (captured?_eq_some_iff_of_not_mem "):" rfl (by decide)).mp captured
    refine ⟨_, param, rest, rfl, hne, fun _ => List.mem_takeWhile_imp, closed, ?_⟩
    rw [← paren, List.takeWhile_append_dropWhile]
  · rintro ⟨event, param, rest, rfl, hne, word, closed, rfl⟩
    have captured : captured? "):" (param ++ ("):".toList ++ rest)) = some param :=
      (captured?_eq_some_iff_of_not_mem "):" rfl (by decide)).mpr ⟨closed, rest, rfl⟩
    rw [eventAt?_call word hne, captured, Option.map_some]

theorem event?_eq_some_iff {line : Text} {directive : Directive} :
    event? line = some directive ↔
      ∃ captures, directive = .event captures.1 captures.2 ∧
        ∃ around, EventForm line captures around := by
  rw [event?_eq, Option.bind_eq_some_iff]
  simp only [hooked?_eq_some_iff, eventAt?_eq_some_iff]
  constructor
  · rintro ⟨_, ⟨blanks, hb, blank, rfl⟩, event, param, rest, rfl, hne, word, closed, rfl⟩
    exact ⟨(event, param), rfl, (blanks, rest), hb, blank, hne, word, closed, by simp⟩
  · rintro ⟨⟨event, param⟩, rfl, ⟨blanks, rest⟩, hb, blank, hne, word, closed, rfl⟩
    exact ⟨_, ⟨blanks, hb, blank, by simp⟩, event, param, rest, rfl, hne, word, closed, rfl⟩

/-! ## What is captured settles the rest -/

theorem CallForm.settled {opening close : String} {line text rest rest' : Text}
    (h : CallForm opening close line text rest) (h' : CallForm opening close line text rest') :
    rest = rest' :=
  List.append_cancel_left (h.2.symm.trans h'.2)

theorem ElseIfForm.settled {line condition : Text} {around around' : Text × Text}
    (h : ElseIfForm line condition around) (h' : ElseIfForm line condition around') :
    around = around' := by
  obtain ⟨blanks, rest⟩ := around
  obtain ⟨blanks', rest'⟩ := around'
  obtain ⟨-, hb, -, rfl⟩ := h
  obtain ⟨-, hb', -, same⟩ := h'
  have behind : blanks ++ '[' :: (condition ++ ("]:".toList ++ rest)) =
      blanks' ++ '[' :: (condition ++ ("]:".toList ++ rest')) := by
    simpa using same
  obtain ⟨rfl, tail⟩ := Text.blanks_unique hb hb' rfl behind
  simpa using tail

theorem EventForm.settled {line : Text} {captures around around' : Text × Text}
    (h : EventForm line captures around) (h' : EventForm line captures around') :
    around = around' := by
  obtain ⟨name, param⟩ := captures
  obtain ⟨blanks, rest⟩ := around
  obtain ⟨blanks', rest'⟩ := around'
  obtain ⟨-, hb, -, -, -, rfl⟩ := h
  obtain ⟨-, hb', -, -, -, same⟩ := h'
  have behind : blanks ++ 'o' :: ("n_".toList ++ (name ++ '(' :: (param ++ ("):".toList ++ rest)))) =
      blanks' ++ 'o' :: ("n_".toList ++ (name ++ '(' :: (param ++ ("):".toList ++ rest')))) := by
    simpa using same
  obtain ⟨rfl, tail⟩ := Text.blanks_unique hb hb' rfl behind
  simpa using tail

/-! ## Lines -/

/-- A line that was led to a form has the directive of the form, or is dropped. -/
theorem ofLine_eq_iff {form : α → Prop} {make : α → Directive} {family : Family} {line : Text}
    {read? : Option Directive} (injective : ∀ {a b}, make a = make b → a = b)
    (kept : ∀ captures, make captures ≠ .dropped family)
    (route : ofLine line = read?.getD (.dropped family))
    (read : ∀ directive, read? = some directive ↔
      ∃ captures, directive = make captures ∧ form captures) :
    (∀ captures, ofLine line = make captures ↔ form captures) ∧
      (ofLine line = .dropped family ↔ ¬ ∃ captures, form captures) := by
  cases read? with
  | none =>
    have absent : ¬ ∃ captures, form captures := by
      rintro ⟨captures, h⟩
      cases (read _).mpr ⟨captures, rfl, h⟩
    have dropped : ofLine line = .dropped family := route
    rw [dropped]
    refine ⟨fun captures => ?_, iff_of_true rfl absent⟩
    exact iff_of_false (kept captures).symm fun h => absent ⟨captures, h⟩
  | some directive =>
    obtain ⟨found, rfl, h⟩ := (read directive).mp rfl
    have made : ofLine line = make found := route
    rw [made]
    constructor
    · intro captures
      constructor
      · intro same
        rwa [← injective same]
      · intro other
        exact Option.some.inj ((read _).mpr ⟨captures, rfl, other⟩)
    · exact iff_of_false (kept found) (not_not_intro ⟨found, h⟩)

/-- A form whose captures determine the text around them. -/
theorem readUniquely {form : α → β → Prop} {make : α → Directive} {family : Family} {line : Text}
    {read? : Option Directive} (injective : ∀ {a b}, make a = make b → a = b)
    (kept : ∀ captures, make captures ≠ .dropped family)
    (route : ofLine line = read?.getD (.dropped family))
    (read : ∀ directive, read? = some directive ↔
      ∃ captures, directive = make captures ∧ ∃ around, form captures around)
    (settled : ∀ captures around around', form captures around → form captures around' →
      around = around') : ReadUniquely form make family line := by
  obtain ⟨exact, dropped⟩ := ofLine_eq_iff injective kept route read
  refine ⟨exact, dropped, ?_⟩
  intro captures captures' around around' h h'
  obtain rfl : captures = captures' := by
    apply injective
    rw [← (exact captures).mpr ⟨around, h⟩, (exact captures').mpr ⟨around', h'⟩]
  exact ⟨rfl, settled captures around around' h h'⟩

/-- A text that a form encloses goes on to the first end behind its opening, and holds no line feed.
Loops, further branches, events and messages are read exactly so; each of their lines can be divided
in one way only, and is dropped where it cannot be. -/
theorem capture_ends_at_first_close (line : Text) :
    (startsWith "loop" line = true → ReadUniquely (CallForm "loop(" "):" line) .loop .loop line) ∧
    (startsWith "elif" line = true → ReadUniquely (ElseIfForm line) .elseIf .elseIf line) ∧
    (startsWith "def" line = true →
      ReadUniquely (EventForm line) (fun captures => .event captures.1 captures.2) .event line) ∧
    (startsWith "print(" line = true →
      ReadUniquely (CallForm "print(" ")" line) .broadcast .broadcast line) := by
  refine ⟨fun keyword => ?_, fun keyword => ?_, fun keyword => ?_, fun keyword => ?_⟩
  · exact readUniquely Directive.loop.inj (by simp) (ofLine_loop keyword)
      (fun _ => loop?_eq_some_iff) fun _ _ _ => CallForm.settled
  · exact readUniquely Directive.elseIf.inj (by simp) (ofLine_elif keyword)
      (fun _ => elseIf?_eq_some_iff) fun _ _ _ => ElseIfForm.settled
  · refine readUniquely ?_ (by simp) (ofLine_def keyword) (fun _ => event?_eq_some_iff)
      fun _ _ _ => EventForm.settled
    rintro ⟨event, param⟩ ⟨event', param'⟩ same
    simpa using same
  · exact readUniquely Directive.broadcast.inj (by simp) (ofLine_print keyword)
      (fun _ => broadcast?_eq_some_iff) fun _ _ _ => CallForm.settled

/-- Three captures stop short of a later end, the first two of them on the first character of their
own end, and the event is a word of two scripts. In the last line a line feed stands before the end. -/
theorem capture_ends_at_first_close_at_double_brackets :
    let loop := "loop(a)):):".toList
    let elseIf := "elif\u00A0\n[a]]: b]:".toList
    let event := "def\ton_éж(x)\r): y):".toList
    let broken := "print(a\n)".toList
    (startsWith "loop" loop = true ∧ ofLine loop = .loop "a)".toList) ∧
    (startsWith "elif" elseIf = true ∧ ofLine elseIf = .elseIf "a]".toList) ∧
    (startsWith "def" event = true ∧ ofLine event = .event "éж".toList "x)\r".toList) ∧
    startsWith "print(" broken = true ∧ ofLine broken = .dropped .broadcast ∧
      ¬ ∃ message rest, CallForm "print(" ")" broken message rest := by
  intro loop elseIf event broken
  have labelled : CallForm "loop(" "):" loop "a)".toList "):".toList := ⟨by decide, by decide⟩
  have conditional : ElseIfForm elseIf "a]".toList ("\u00A0\n".toList, " b]:".toList) :=
    ⟨by decide, by decide, by decide, by decide⟩
  have word : "éж".toList.all Text.isWord = true := by decide +kernel
  have hooked : EventForm event ("éж".toList, "x)\r".toList) ("\t".toList, " y):".toList) :=
    ⟨by decide, by decide, by decide, List.all_eq_true.mp word, by decide, by decide⟩
  have dropped : ofLine broken = .dropped .broadcast := by decide +kernel
  obtain ⟨loops, -⟩ := capture_ends_at_first_close loop
  obtain ⟨-, elseIfs, -⟩ := capture_ends_at_first_close elseIf
  obtain ⟨-, -, events, -⟩ := capture_ends_at_first_close event
  obtain ⟨-, -, -, broadcasts⟩ := capture_ends_at_first_close broken
  refine ⟨⟨rfl, ?_⟩, ⟨rfl, ?_⟩, ⟨rfl, ?_⟩, rfl, dropped, ?_⟩
  · exact ((loops rfl).exact _).mpr ⟨_, labelled⟩
  · exact ((elseIfs rfl).exact _).mpr ⟨_, conditional⟩
  · exact ((events rfl).exact (_, _)).mpr ⟨_, hooked⟩
  · exact (broadcasts rfl).dropped.mp dropped

end VoidScript.Directive
