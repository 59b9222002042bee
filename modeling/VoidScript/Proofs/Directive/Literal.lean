import Mathlib.Data.List.Infix
import VoidScript.Proofs.Directive.Enclosed
import VoidScript.Proofs.Script

/-!
Lines that no keyword starts. A collection literal is an identifier, an equals sign and brackets up
to the end of the line; all that looks otherwise is a message, a comment or a line taken over as it
is.

* `isWord_of_isBlank`: words and blanks do not run into each other;
* `isCollectionLiteral_iff`, `LiteralForm.unique`: a literal is divided in one way;
* `collection?_eq_some_iff`: its kind is the first whose keyword the line holds anywhere;
* `unkeyed_lines_told_apart`: hence such lines are told apart, and none gets lost unless it is
  dropped.
-/

namespace VoidScript

namespace Text

/-! ## Words and blanks -/

/-- No range of the one class meets a range of the other. -/
def Class.Apart (first second : Class) : Prop :=
  ∀ range ∈ first, ∀ other ∈ second, range.2 < other.1 ∨ other.2 < range.1

instance (first second : Class) : Decidable (first.Apart second) :=
  List.decidableBAll _ first

theorem Class.Apart.holds_eq_false {first second : Class} (apart : first.Apart second) {c : Char}
    (h : first.holds c = true) : second.holds c = false := by
  obtain ⟨range, listed, within⟩ := List.any_eq_true.mp h
  refine List.any_eq_false.mpr fun other hother inside => ?_
  simp only [Bool.and_eq_true, decide_eq_true_eq] at within inside
  have := apart range listed other hother
  omega

theorem blank_apart_word : Class.Apart blankRanges wordRanges := by decide +kernel

theorem isWord_of_isBlank {c : Char} (h : isBlank c = true) : isWord c = false :=
  blank_apart_word.holds_eq_false h

/-- Blanks and what follows them are no part of a word. -/
theorem isWord_head {blanks : Text} {mark : Char} (hb : Blank blanks) (hm : isWord mark = false)
    (rest : Text) : ∀ c, (blanks ++ mark :: rest).head? = some c → isWord c = false := by
  intro c hc
  cases blanks with
  | nil =>
    obtain rfl : mark = c := by simpa using hc
    exact hm
  | cons d blanks =>
    obtain rfl : d = c := by simpa using hc
    exact isWord_of_isBlank (hb d List.mem_cons_self)

end Text

namespace Directive

open Text (Blank)

/-! ## The form of a literal -/

/-- The form of a collection literal, `name = [body]`, where the name is a run of word characters,
there may be blanks on both sides of the equals sign, and the last bracket ends the line. -/
def LiteralForm (line name before after body : Text) : Prop :=
  name ≠ [] ∧ (∀ c ∈ name, Text.isWord c = true) ∧ Blank before ∧ Blank after ∧ '\n' ∉ body ∧
    line = name ++ before ++ "=".toList ++ after ++ "[".toList ++ body ++ "]".toList

/-- The line has the form of a collection literal. -/
def Literal (line : Text) : Prop :=
  ∃ name before after body, LiteralForm line name before after body

theorem marked_assignment_iff {between : Text} :
    Marked ['=', '['] between ↔
      ∃ before after, Blank before ∧ Blank after ∧
        between = before ++ '=' :: (after ++ ['[']) := by
  constructor
  · intro marked
    cases marked with
    | cons hb later =>
      cases later with
      | cons ha last =>
        cases last
        exact ⟨_, _, hb, ha, rfl⟩
  · rintro ⟨before, after, hb, ha, rfl⟩
    exact .cons hb (.cons ha .nil)

/-- The brackets of a literal are found behind the word at the start of the line. -/
theorem isCollectionLiteral_eq_true_iff {line : Text} :
    isCollectionLiteral line = true ↔
      ∃ inner, skipTo? ['=', '['] (line.dropWhile Text.isWord) = some inner ∧
        line.takeWhile Text.isWord ≠ [] ∧ inner.getLast? = some ']' ∧ '\n' ∉ inner := by
  have body : skipTo? ['=', '['] (line.dropWhile Text.isWord) =
      (expect? "=" (Text.skipBlanks (line.dropWhile Text.isWord))).bind fun rest =>
        expect? "[" (Text.skipBlanks rest) := by
    simp [skipTo?, expect?]
  have named : line.head?.any Text.isWord = true ↔ line.takeWhile Text.isWord ≠ [] := by
    cases line with
    | nil => simp
    | cons c line => by_cases hc : Text.isWord c = true <;> simp [hc]
  simp only [isCollectionLiteral, Option.bind_eq_bind, ← body]
  cases skipTo? ['=', '['] (line.dropWhile Text.isWord) with
  | none => simp
  | some inner => simp [named, and_assoc]

/-- The name is all of the word at the start of the line. -/
theorem LiteralForm.parts {line name before after body : Text}
    (h : LiteralForm line name before after body) :
    line.takeWhile Text.isWord = name ∧
      line.dropWhile Text.isWord = before ++ '=' :: (after ++ '[' :: (body ++ [']'])) := by
  obtain ⟨-, word, hb, -, -, rfl⟩ := h
  have mark : Text.isWord '=' = false := by decide +kernel
  have exact := Text.run_exact word (Text.isWord_head hb mark (after ++ '[' :: (body ++ [']'])))
  simpa using exact

theorem isCollectionLiteral_iff {line : Text} : isCollectionLiteral line = true ↔ Literal line := by
  rw [isCollectionLiteral_eq_true_iff]
  constructor
  · rintro ⟨inner, found, hne, last, hn⟩
    obtain ⟨between, marked, behind⟩ := (skipTo?_eq_some_iff (by decide)).mp found
    obtain ⟨before, after, hb, ha, rfl⟩ := marked_assignment_iff.mp marked
    obtain ⟨body, rfl⟩ := List.getLast?_eq_some_iff.mp last
    refine ⟨line.takeWhile Text.isWord, before, after, body, hne, fun _ => List.mem_takeWhile_imp,
      hb, ha, fun h => hn (List.mem_append_left _ h), ?_⟩
    calc line = line.takeWhile Text.isWord ++ line.dropWhile Text.isWord :=
          List.takeWhile_append_dropWhile.symm
      _ = _ := by rw [behind]; simp
  · rintro ⟨name, before, after, body, form⟩
    obtain ⟨taken, behind⟩ := form.parts
    obtain ⟨hne, -, hb, ha, hn, -⟩ := form
    refine ⟨body ++ [']'], ?_, by rwa [taken], List.getLast?_concat, by simpa using hn⟩
    rw [behind]
    exact (skipTo?_eq_some_iff (by decide)).mpr
      ⟨_, marked_assignment_iff.mpr ⟨before, after, hb, ha, rfl⟩, by simp⟩

theorem LiteralForm.unique {line name before after body name' before' after' body' : Text}
    (h : LiteralForm line name before after body)
    (h' : LiteralForm line name' before' after' body') :
    name = name' ∧ before = before' ∧ after = after' ∧ body = body' := by
  obtain ⟨taken, behind⟩ := h.parts
  obtain ⟨taken', behind'⟩ := h'.parts
  obtain ⟨-, -, hb, ha, -, -⟩ := h
  obtain ⟨-, -, hb', ha', -, -⟩ := h'
  obtain ⟨rfl, assigned⟩ := Text.blanks_unique hb hb' rfl (behind.symm.trans behind')
  obtain ⟨rfl, bracketed⟩ := Text.blanks_unique ha ha' rfl assigned
  exact ⟨taken.symm.trans taken', rfl, rfl, List.append_cancel_right bracketed⟩

/-! ## Its kind -/

/-- The first kind in the order of the search whose keyword the line holds. -/
def FirstNamed (line : Text) (kind : Collection) : Prop :=
  kind.keyword <:+: line ∧ ∃ before after,
    [.list, .dict, .set, .tuple] = before ++ kind :: after ∧
      ∀ other ∈ before, ¬ other.keyword <:+: line

theorem occurs_iff {key s : Text} : Text.occurs key s = true ↔ key <:+: s := by
  rw [Text.occurs, ← Option.ne_none_iff_isSome, ne_eq, Text.cut?_eq_none_iff, not_not]

theorem collection?_eq_some_iff {line : Text} {directive : Directive} :
    collection? line = some directive ↔
      ∃ kind, directive = .collection kind ∧ FirstNamed line kind := by
  rw [collection?, Option.map_eq_some_iff]
  simp only [List.find?_eq_some_iff_append, occurs_iff, Bool.not_eq_true', ← Bool.not_eq_true]
  constructor
  · rintro ⟨kind, ⟨held, before, after, order, absent⟩, rfl⟩
    exact ⟨kind, rfl, held, before, after, order, absent⟩
  · rintro ⟨kind, rfl, held, before, after, order, absent⟩
    exact ⟨kind, ⟨held, before, after, order, absent⟩, rfl⟩

theorem collection?_eq_none_iff {line : Text} :
    collection? line = none ↔ ∀ kind : Collection, ¬ kind.keyword <:+: line := by
  rw [collection?, Option.map_eq_none_iff, List.find?_eq_none]
  simp only [occurs_iff]
  exact ⟨fun h kind => h kind (by cases kind <;> decide), fun h kind _ => h kind⟩

/-! ## Lines without a keyword -/

/-- The family whose form a line was read by. -/
def family? : Directive → Option Family
  | .function .. => some .function
  | .loop _ => some .loop
  | .branch .. => some .branch
  | .elseIf _ => some .elseIf
  | .event .. => some .event
  | .collection _ => some .collection
  | .broadcast _ => some .broadcast
  | .dropped family => some family
  | .otherwise | .comment _ | .passthrough _ => none

/-- Directives that keep the text of their line. -/
def isVerbatim : Directive → Bool
  | .comment _ | .passthrough _ => true
  | _ => false

/-- No keyword that is tried before a collection literal starts the line. -/
def Unkeyed (line : Text) : Prop :=
  ∀ keyword ∈ ["func", "loop", "if", "elif", "else", "def"], startsWith keyword line = false

instance (line : Text) : Decidable (Unkeyed line) := List.decidableBAll _ _

theorem ofLine_unkeyed {line : Text} (h : Unkeyed line) :
    ofLine line =
      if isCollectionLiteral line then (collection? line).getD (.dropped .collection)
      else if startsWith "print(" line then (broadcast? line).getD (.dropped .broadcast)
      else if line.isEmpty || startsWith "#" line then .comment line
      else .passthrough line := by
  simp only [Unkeyed, List.forall_mem_cons] at h
  obtain ⟨func, loop, branch, elseIf, otherwise, event, -⟩ := h
  simp only [ofLine, func, loop, branch, elseIf, otherwise, event, Bool.false_eq_true, ↓reduceIte]

theorem ofLine_literal {line : Text} (h : Unkeyed line) (literal : Literal line) :
    ofLine line = (collection? line).getD (.dropped .collection) := by
  rw [ofLine_unkeyed h, if_pos (isCollectionLiteral_iff.mpr literal)]

theorem ofLine_not_literal {line : Text} (h : Unkeyed line) (literal : ¬ Literal line)
    (call : startsWith "print(" line = false) :
    ofLine line =
      if line = [] ∨ startsWith "#" line = true then .comment line else .passthrough line := by
  rw [ofLine_unkeyed h, if_neg (isCollectionLiteral_iff.not.mpr literal), call]
  simp [List.isEmpty_iff]

theorem family?_collection (line : Text) :
    ((collection? line).getD (.dropped .collection)).family? = some .collection := by
  cases found : collection? line with
  | none => rfl
  | some directive =>
    obtain ⟨kind, rfl, -⟩ := collection?_eq_some_iff.mp found
    rfl

theorem family?_broadcast (line : Text) :
    ((broadcast? line).getD (.dropped .broadcast)).family? = some .broadcast := by
  cases found : broadcast? line with
  | none => rfl
  | some directive =>
    obtain ⟨message, rfl, -⟩ := broadcast?_eq_some_iff.mp found
    rfl

theorem family?_eq_collection_iff {line : Text} (h : Unkeyed line) :
    (ofLine line).family? = some .collection ↔ Literal line := by
  by_cases literal : Literal line
  · rw [ofLine_literal h literal, family?_collection]
    exact iff_of_true rfl literal
  · refine iff_of_false ?_ literal
    cases call : startsWith "print(" line with
    | true =>
      rw [ofLine_print call, family?_broadcast]
      simp
    | false =>
      rw [ofLine_not_literal h literal call]
      split <;> simp [family?]

/-- What a line that no keyword starts is read as. -/
structure ToldApart (line : Text) : Prop where
  routed : (ofLine line).family? = some .collection ↔ Literal line
  unique : ∀ name before after body name' before' after' body',
    LiteralForm line name before after body → LiteralForm line name' before' after' body' →
      name = name' ∧ before = before' ∧ after = after' ∧ body = body'
  kind : Literal line → ∀ kind, ofLine line = .collection kind ↔ FirstNamed line kind
  nameless : Literal line →
    (ofLine line = .dropped .collection ↔ ∀ kind : Collection, ¬ kind.keyword <:+: line)
  comment : ¬ Literal line → startsWith "print(" line = false →
    (ofLine line = .comment line ↔ line = [] ∨ startsWith "#" line = true)
  passthrough : ¬ Literal line → startsWith "print(" line = false →
    (ofLine line = .passthrough line ↔ ¬ (line = [] ∨ startsWith "#" line = true))

theorem toldApart {line : Text} (h : Unkeyed line) : ToldApart line where
  routed := family?_eq_collection_iff h
  unique _ _ _ _ _ _ _ _ := LiteralForm.unique
  kind literal :=
    (ofLine_eq_iff Directive.collection.inj (by simp) (ofLine_literal h literal)
      fun _ => collection?_eq_some_iff).1
  nameless literal := by
    rw [ofLine_literal h literal, ← collection?_eq_none_iff]
    cases found : collection? line with
    | none => simp
    | some directive =>
      obtain ⟨kind, rfl, -⟩ := collection?_eq_some_iff.mp found
      simp
  comment literal call := by
    rw [ofLine_not_literal h literal call]
    split <;> simp_all
  passthrough literal call := by
    rw [ofLine_not_literal h literal call]
    split <;> simp_all

/-- A call has no assignment behind its name, and a comment no name. -/
theorem not_literal {line : Text} (h : startsWith "print(" line = true ∨ startsWith "#" line = true) :
    ¬ Literal line := by
  rw [← isCollectionLiteral_iff, Bool.not_eq_true]
  rcases h with call | mark
  · obtain ⟨rest, rfl⟩ := List.isPrefixOf_iff_prefix.mp call
    exact isCollectionLiteral_call rest
  · obtain ⟨rest, rfl⟩ := List.isPrefixOf_iff_prefix.mp mark
    exact isCollectionLiteral_comment rest

/-- A line that was not dropped has a fragment, and stands in it itself unless it was read by a
form. -/
theorem exists_fragment {line : Text} (kept : ∀ family, ofLine line ≠ .dropped family) :
    ∃ fragment, Plugin.fragment? (ofLine line) = some fragment ∧
      ((ofLine line).isVerbatim = true → line <:+: fragment) := by
  have reading := ofLine_reading line
  generalize ofLine line = directive at kept reading ⊢
  cases reading with
  | comment | passthrough => exact ⟨_, rfl, fun _ => (List.suffix_append _ line).isInfix⟩
  | dropped family => exact absurd rfl (kept family)
  | function | loop | branch | elseIf | otherwise | event | collection | broadcast =>
    exact ⟨_, rfl, by simp [isVerbatim]⟩

/-- Lines that no keyword starts are told apart exactly: the form of a literal leads to the kind
whose keyword comes first in the order of the search, or to a dropped line, and what is neither a
literal nor a call is a comment or taken over as it is. So no call and no comment is a literal, and
a line that is not empty leaves something behind unless it is dropped. -/
theorem unkeyed_lines_told_apart :
    (∀ line, Unkeyed line → ToldApart line) ∧
    (∀ line, startsWith "print(" line = true ∨ startsWith "#" line = true →
      ¬ Literal line ∧ (ofLine line).family? ≠ some .collection) ∧
    (∀ line, line ≠ [] → (∃ family, ofLine line = .dropped family) ∨
      ∃ fragment, Plugin.fragment? (ofLine line) = some fragment ∧
        ((ofLine line).isVerbatim = true → line <:+: fragment)) := by
  refine ⟨fun _ => toldApart, ?_, ?_⟩
  · intro line h
    refine ⟨not_literal h, ?_⟩
    rcases h with call | mark
    · rw [ofLine_print call, family?_broadcast]
      simp
    · obtain ⟨rest, rfl⟩ := List.isPrefixOf_iff_prefix.mp mark
      have unkeyed : Unkeyed ("#".toList ++ rest) := by simp [Unkeyed, startsWith, List.isPrefixOf]
      rw [Ne, family?_eq_collection_iff unkeyed]
      exact not_literal (.inr mark)
  · intro line _
    by_cases dropped : ∃ family, ofLine line = .dropped family
    · exact .inl dropped
    · exact .inr (exists_fragment fun family h => dropped ⟨family, h⟩)

/-- The keyword of the first line stands in its name, and its body ends with a bracket of its own.
The second has no kind, and the third no single equals sign. -/
theorem unkeyed_lines_told_apart_by_name :
    let literal := "playlist\u2003=[[dict]]".toList
    let plain := "x=\n[1]".toList
    let test := "a == [set]".toList
    (Unkeyed literal ∧ LiteralForm literal "playlist".toList "\u2003".toList [] "[dict]".toList ∧
      ofLine literal = .collection .list) ∧
    (Unkeyed plain ∧ LiteralForm plain "x".toList [] "\n".toList "1".toList ∧
      ofLine plain = .dropped .collection) ∧
    (Unkeyed test ∧ ¬ Literal test ∧ ofLine test = .passthrough test) ∧
    startsWith "#" "#x=[list]".toList = true ∧ ¬ Literal "#x=[list]".toList := by
  intro literal plain test
  obtain ⟨lines, marked, -⟩ := unkeyed_lines_told_apart
  have name : "playlist".toList.all Text.isWord = true := by decide +kernel
  have letter : "x".toList.all Text.isWord = true := by decide +kernel
  have listed : LiteralForm literal "playlist".toList "\u2003".toList [] "[dict]".toList :=
    ⟨by decide, List.all_eq_true.mp name, by decide, by decide, by decide, by decide⟩
  have assigned : LiteralForm plain "x".toList [] "\n".toList "1".toList :=
    ⟨by decide, List.all_eq_true.mp letter, by decide, by decide, by decide, by decide⟩
  have first : FirstNamed literal .list := ⟨by decide, [], _, rfl, by simp⟩
  have nameless : ∀ kind : Collection, ¬ kind.keyword <:+: plain := by
    intro kind
    cases kind <;> decide
  have passed : ofLine test = .passthrough test := by decide +kernel
  have other : ¬ Literal test := by
    rw [← (lines test (by decide)).routed, passed]
    simp [family?]
  refine ⟨⟨by decide, listed, ?_⟩, ⟨by decide, assigned, ?_⟩, ⟨by decide, other, passed⟩, rfl, ?_⟩
  · exact ((lines literal (by decide)).kind ⟨_, _, _, _, listed⟩ .list).mpr first
  · exact ((lines plain (by decide)).nameless ⟨_, _, _, _, assigned⟩).mpr nameless
  · exact (marked _ (.inr rfl)).1

end Directive

end VoidScript
