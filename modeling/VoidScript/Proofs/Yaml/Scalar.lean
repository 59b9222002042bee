import Mathlib.Algebra.Order.Ring.Nat
import VoidScript.Proofs.Text.Quoted
import VoidScript.Yaml.Scalar

/-!
Reading scalars back. Each style has a reader of its own, and the first character of a written
value tells which one to use.

* `readSingle_body`: single quotes, with what was put in front of continued lines taken away;
* `readChar?_escape`: the escapes of double quotes;
* `readBlock_literalBody`: literal blocks, which end where a line is not indented;
* `read?_write`: a value is read back with its style, and nothing of what follows it is taken.
-/

namespace VoidScript.Yaml.Scalar

/-- Puts a character in front of what was read. -/
def prepend (c : Char) (found : Text × Text) : Text × Text := (c :: found.1, found.2)

/-! ## Single quotes -/

/-- Reads up to the closing quote. A line that continues the value starts with two spaces. -/
def readSingle : Bool → Text → Option (Text × Text)
  | _, [] => none
  | true, ' ' :: ' ' :: rest => readSingle false rest
  | true, c :: rest => if isBreak c then (readSingle true rest).map (prepend c) else none
  | false, '\x27' :: '\x27' :: rest => (readSingle false rest).map (prepend '\x27')
  | false, '\x27' :: rest => some ([], rest)
  | false, c :: rest => (readSingle (isBreak c) rest).map (prepend c)

theorem readSingle_indent (atLineStart : Bool) (rest : Text) :
    readSingle atLineStart (indent atLineStart ++ rest) = readSingle false rest := by
  cases atLineStart <;> rfl

theorem readSingle_break {c : Char} (hc : isBreak c = true) (atLineStart : Bool) (rest : Text) :
    readSingle atLineStart (c :: rest) = (readSingle true rest).map (prepend c) := by
  have space : c ≠ ' ' := by rintro rfl; cases hc
  have quote : c ≠ '\x27' := by rintro rfl; cases hc
  cases atLineStart <;> simp [readSingle, space, quote, hc]

theorem readSingle_char {c : Char} (hc : isBreak c = false) (quote : c ≠ '\x27') (rest : Text) :
    readSingle false (c :: rest) = (readSingle false rest).map (prepend c) := by
  simp [readSingle, quote, hc]

theorem readSingle_close {rest : Text} (h : rest.head? ≠ some '\x27') :
    readSingle false ('\x27' :: rest) = some ([], rest) := by
  rw [readSingle]
  rintro rest' rfl
  exact h rfl

theorem readSingle_body (s : Text) {rest : Text} (h : rest.head? ≠ some '\x27')
    (atLineStart : Bool) :
    readSingle atLineStart (singleQuotedBody atLineStart s ++ '\x27' :: rest) = some (s, rest) := by
  induction s generalizing atLineStart with
  | nil => rw [singleQuotedBody, readSingle_indent, readSingle_close h]
  | cons c s ih =>
    cases hc : isBreak c with
    | true =>
      simp only [singleQuotedBody, hc, ↓reduceIte, List.cons_append]
      rw [readSingle_break hc, ih true]
      rfl
    | false =>
      simp only [singleQuotedBody, hc, Bool.false_eq_true, ↓reduceIte, List.append_assoc]
      rw [readSingle_indent]
      by_cases quote : c = '\x27'
      · subst quote
        simp only [↓reduceIte, List.cons_append, List.nil_append, readSingle, ih false]
        rfl
      · simp only [quote, ↓reduceIte, List.cons_append, List.nil_append]
        rw [readSingle_char hc quote, ih false]
        rfl

/-! ## Double quotes -/

/-- How many digits follow the letter of a code point. -/
def codeWidth? : Char → Option Nat
  | 'x' => some 2
  | 'u' => some 4
  | 'U' => some 8
  | _ => none

def readCode? (width : Nat) (s : Text) : Option (Char × Text) :=
  (Number.natural? 16 (s.take width)).map fun code => (Char.ofNat code, s.drop width)

/-- One character, escaped or not. -/
def readChar? : Text → Option (Char × Text)
  | [] | ['\\'] => none
  | '\\' :: letter :: rest =>
      match codeWidth? letter with
      | some width => readCode? width rest
      | none => (named.find? (·.2 == letter)).map fun entry => (entry.1, rest)
  | c :: rest => some (c, rest)

theorem length_hexadecimal {width code : Nat} (hw : 0 < width) (h : code < 16 ^ width) :
    (hexadecimal width code).length = width := by
  have fits := (Nat.length_toDigits_le_iff (by decide) hw).mpr h
  simp only [hexadecimal, List.length_append, List.length_replicate, List.length_map]
  omega

theorem readCode?_hexadecimal {width : Nat} (hw : 0 < width) {c : Char} (h : c.toNat < 16 ^ width)
    (rest : Text) : readCode? width (hexadecimal width c.toNat ++ rest) = some (c, rest) := by
  have value : Number.natural? 16 (hexadecimal width c.toNat) = some c.toNat :=
    Number.natural?_toDigits Char.toUpper Number.digit?_toUpper_digitChar _ _
  have digits := length_hexadecimal hw h
  rw [readCode?, List.take_append_of_le_length (by omega), List.take_of_length_le (by omega),
    List.drop_append_of_le_length (by omega), List.drop_of_length_le (by omega), value]
  simp

/-- The letters stand for one character each, and for no number of digits. -/
theorem named_legible : ∀ entry ∈ named,
    codeWidth? entry.2 = none ∧ named.find? (·.2 == entry.2) = some entry := by decide

theorem readChar?_named {c letter : Char} (h : named.lookup c = some letter) (rest : Text) :
    readChar? ('\\' :: letter :: rest) = some (c, rest) := by
  obtain ⟨before, after, split, -⟩ := List.lookup_eq_some_iff.mp h
  have listed : (c, letter) ∈ named := by simp [split]
  obtain ⟨width, found⟩ := named_legible _ listed
  simp [readChar?, width, found]

theorem readChar?_codeEscape (c : Char) (rest : Text) :
    readChar? (codeEscape c.toNat ++ rest) = some (c, rest) := by
  unfold codeEscape
  split_ifs with byte word
  · exact readCode?_hexadecimal (by decide) byte rest
  · exact readCode?_hexadecimal (by decide) word rest
  · exact readCode?_hexadecimal (by decide) c.val.toNat_lt rest

theorem readChar?_raw {c : Char} (h : c ≠ '\\') (rest : Text) :
    readChar? (c :: rest) = some (c, rest) := by
  unfold readChar?
  split <;> simp_all

theorem readChar?_escape (c : Char) (rest : Text) :
    readChar? (escape c ++ rest) = some (c, rest) := by
  unfold escape
  split
  · exact readChar?_named ‹_› rest
  · rename_i unnamed
    split
    · have backslash : c ≠ '\\' := by rintro rfl; cases unnamed
      exact readChar?_raw backslash rest
    · exact readChar?_codeEscape c rest

theorem legible : Text.Legible readChar? escape where
  read := readChar?_escape
  head c := by
    unfold escape
    split
    · exact ⟨'\\', _, rfl, by decide⟩
    · rename_i unnamed
      split
      · exact ⟨c, [], rfl, by rintro rfl; cases unnamed⟩
      · unfold codeEscape
        split_ifs <;> exact ⟨'\\', _, rfl, by decide⟩

/-! ## Literal blocks -/

/-- Reads lines as long as they are indented or empty. -/
def readBlock : Bool → Text → Text × Text
  | _, [] => ([], [])
  | true, ' ' :: ' ' :: rest => readBlock false rest
  | true, c :: rest => if isBreak c then prepend c (readBlock true rest) else ([], c :: rest)
  | false, c :: rest => prepend c (readBlock (isBreak c) rest)

/-- What follows an entry neither continues its last line nor adds a line to it. -/
def Fresh (rest : Text) : Prop := ∀ c, rest.head? = some c → c ≠ ' ' ∧ isBreak c = false

/-- The text is a number of whole lines. -/
def endsWithBreak (s : Text) : Bool := s.getLast?.any isBreak

theorem readBlock_fresh {rest : Text} (fresh : Fresh rest) : readBlock true rest = ([], rest) := by
  cases rest with
  | nil => rfl
  | cons c rest =>
    obtain ⟨space, unbroken⟩ := fresh c rfl
    simp [readBlock, space, unbroken]

theorem readBlock_break {c : Char} (hc : isBreak c = true) (atLineStart : Bool) (rest : Text) :
    readBlock atLineStart (c :: rest) = prepend c (readBlock true rest) := by
  have space : c ≠ ' ' := by rintro rfl; cases hc
  cases atLineStart <;> simp [readBlock, space, hc]

theorem readBlock_char {c : Char} (hc : isBreak c = false) (atLineStart : Bool) (rest : Text) :
    readBlock atLineStart (indent atLineStart ++ c :: rest) = prepend c (readBlock false rest) := by
  cases atLineStart <;> simp [readBlock, indent, hc]

theorem readBlock_literalBody {rest : Text} (fresh : Fresh rest) {s : Text} (atLineStart : Bool)
    (whole : endsWithBreak s = true ∨ s = [] ∧ atLineStart = true) :
    readBlock atLineStart (literalBody atLineStart s ++ rest) = (s, rest) := by
  induction s generalizing atLineStart with
  | nil =>
    rcases whole with h | ⟨-, rfl⟩
    · cases h
    · exact readBlock_fresh fresh
  | cons c s ih =>
    have ends : endsWithBreak (c :: s) = true := by simpa using whole
    cases hc : isBreak c with
    | true =>
      have tail : endsWithBreak s = true ∨ s = [] ∧ true = true := by
        cases s with
        | nil => simp
        | cons d s => exact Or.inl (by simpa [endsWithBreak] using ends)
      simp only [literalBody, hc, ↓reduceIte, List.cons_append]
      rw [readBlock_break hc, ih true tail]
      rfl
    | false =>
      have tail : endsWithBreak s = true := by
        cases s with
        | nil => simp [endsWithBreak, hc] at ends
        | cons d s => simpa [endsWithBreak] using ends
      simp only [literalBody, hc, Bool.false_eq_true, ↓reduceIte, List.append_assoc,
        List.cons_append]
      rw [readBlock_char hc, ih false (Or.inl tail)]
      rfl

/-- A line feed after the last line makes it a whole line. -/
theorem literalBody_append_line_feed (s : Text) (atLineStart : Bool) :
    literalBody atLineStart s ++ ['\n'] = literalBody atLineStart (s ++ ['\n']) := by
  induction s generalizing atLineStart with
  | nil => rfl
  | cons c s ih =>
    simp only [List.cons_append, literalBody]
    split <;> simp [ih]

/-- A header fits on its line, and says whether the text ends with a break of its own. -/
theorem literalHeader_marks {s : Text} (hne : s ≠ []) :
    ∃ marks, literalHeader s = '|' :: marks ∧ '\n' ∉ marks ∧
      ('-' ∈ marks ↔ endsWithBreak s = false) := by
  refine ⟨_, rfl, ?_⟩
  generalize hd : (if (s.head?.any fun c => c == ' ' || isBreak c) = true then ['2'] else []) =
    depth
  have marks : '\n' ∉ depth ∧ '-' ∉ depth := by
    rw [← hd]
    split <;> decide
  rw [endsWithBreak, ← List.head?_reverse]
  cases hr : s.reverse with
  | nil => exact absurd (List.reverse_eq_nil_iff.mp hr) hne
  | cons last front =>
    cases front with
    | nil => cases hl : isBreak last <;> simp [marks, hl]
    | cons before front =>
      cases hl : isBreak last <;> cases hb : isBreak before <;> simp [marks, hl, hb]

/-- What stands before and after the end of the first line. -/
def firstLine (s : Text) : Text × Text := Text.breakAt '\n' s

theorem firstLine_append {line : Text} (h : '\n' ∉ line) (rest : Text) :
    firstLine (line ++ '\n' :: rest) = (line, rest) :=
  Text.breakAt_append h rest

/-- The header says whether the last break is one of the text. -/
def readLiteral (s : Text) : Text × Text :=
  let (header, lines) := firstLine s
  let (text, rest) := readBlock true lines
  (if '-' ∈ header then text.dropLast else text, rest)

theorem readLiteral_lines {rest : Text} (fresh : Fresh rest) {s marks : Text}
    (one_line : '\n' ∉ marks) (strips : '-' ∈ marks ↔ endsWithBreak s = false) :
    readLiteral (marks ++ '\n' :: (literalBody true s
      ++ ((if endsWithBreak s then [] else ['\n']) ++ rest))) = (s, rest) := by
  rw [readLiteral, firstLine_append one_line]
  cases ends : endsWithBreak s with
  | true =>
    have block := readBlock_literalBody fresh true (Or.inl ends)
    simp [block, strips, ends]
  | false =>
    have whole : endsWithBreak (s ++ ['\n']) = true := by simp [endsWithBreak, isBreak]
    have block := readBlock_literalBody fresh true (Or.inl whole)
    rw [← literalBody_append_line_feed, List.append_assoc] at block
    simp only [Bool.false_eq_true, ↓reduceIte, block]
    simp [strips, ends]

/-! ## Any style -/

/-- Takes the line feed that ends a value. -/
def endLine : Text × Text → Option (Text × Text)
  | (value, '\n' :: rest) => some (value, rest)
  | _ => none

/-- Reads a value through the end of its last line, with its style and what follows it. -/
def read? : Text → Option (Style × Text × Text)
  | '\x27' :: rest => ((readSingle false rest).bind endLine).map (Style.singleQuoted, ·)
  | '\x22' :: rest => ((Text.unquote? readChar? rest).bind endLine).map (Style.doubleQuoted, ·)
  | '|' :: rest => some (.literal, readLiteral rest)
  | s => some (.plain, firstLine s)

theorem style_eq_plain {s : Text} (h : style s = .plain) :
    isAmbiguous s = false ∧ plainAllowed s = true := by
  unfold style at h
  split_ifs at h with feed literal plain
  simpa using plain

theorem style_eq_literal {s : Text} (h : style s = .literal) : '\n' ∈ s := by
  unfold style at h
  split_ifs at h with feed
  simpa using feed

/-- A plain value starts with no mark of another style and stays on its line. -/
theorem plain_text {s : Text} (h : style s = .plain) :
    ∃ c rest, s = c :: rest ∧ c ≠ '\x27' ∧ c ≠ '\x22' ∧ c ≠ '|' ∧ '\n' ∉ s := by
  obtain ⟨certain, allowed⟩ := style_eq_plain h
  cases s with
  | nil => cases certain
  | cons c rest =>
    simp only [plainAllowed, Bool.and_eq_true, Bool.not_eq_true', List.any_eq_false] at allowed
    have unmarked : indicators.contains c = false := by
      have := allowed.1.1.1.1.1.1.2
      simp only [startsWithIndicator, Bool.or_eq_false_iff] at this
      exact this.1
    have unbroken : '\n' ∉ c :: rest := fun hm => allowed.1.2 '\n' hm rfl
    refine ⟨c, rest, rfl, ?_, ?_, ?_, unbroken⟩ <;> rintro rfl <;> cases unmarked

theorem read?_plain {s : Text} (h : style s = .plain) (rest : Text) :
    read? (s ++ '\n' :: rest) = some (.plain, s, rest) := by
  obtain ⟨c, tail, rfl, single, double, bar, unbroken⟩ := plain_text h
  have line := firstLine_append unbroken rest
  rw [List.cons_append] at line ⊢
  simp [read?, line, single, double, bar]

/-- A value is told from what follows it, whatever the value is. -/
theorem read?_write (s : Text) {rest : Text} (fresh : Fresh rest) :
    read? (write s ++ ((if endsLine s then [] else ['\n']) ++ rest)) = some (style s, s, rest) := by
  cases h : style s with
  | plain =>
    simp only [write, endsLine, h, writeAs]
    exact read?_plain h rest
  | singleQuoted =>
    have following : ('\n' :: rest).head? ≠ some '\x27' := by simp
    have body := readSingle_body s following false
    simp only [write, endsLine, h, writeAs]
    simp [read?, endLine, body]
  | doubleQuoted =>
    have body := Text.unquote?_flatMap legible s ('\n' :: rest)
    simp only [write, endsLine, h, writeAs]
    simp [read?, endLine, body]
  | literal =>
    have hne : s ≠ [] := List.ne_nil_of_mem (style_eq_literal h)
    obtain ⟨marks, header, one_line, strips⟩ := literalHeader_marks hne
    have lines := readLiteral_lines fresh one_line strips
    have ending : endsLine s = endsWithBreak s := by simp [endsLine, h, endsWithBreak]
    rw [write, h, writeAs, header, ending]
    simp only [List.cons_append, List.append_assoc, List.nil_append, read?, lines]

end VoidScript.Yaml.Scalar
