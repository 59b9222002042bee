import VoidScript.Plugin.Generator
import VoidScript.Proofs.Directive.Capture
import VoidScript.Proofs.Metadata
import VoidScript.Proofs.Source.Lines

/-!
Scripts and their fragments line by line.

* `parse_directives`, `number_append`: every line is classified alone, and numbered in order;
* `meaning_captures`, `parse_field_unbroken`: nothing taken over from a source holds a line break;
* `generate_fragments`: a generator adds to what it holds one fragment for each line that was not
  dropped;
* `fragments_eq`: so the fragments of a source come from its lines one at a time.
-/

namespace VoidScript

/-- The same line further down. -/
def Line.shift (n : Nat) (line : Line) : Line := { line with number := line.number + n }

namespace Script

/-- What a line of source text means, whatever stands around it. -/
def meaning (line : Text) : Directive := Directive.ofLine (Text.trim line)

theorem number_directives (first : Nat) (directives : List Directive) :
    (number first directives).map (·.directive) = directives := by
  induction directives generalizing first with
  | nil => rfl
  | cons directive rest ih => simp [number, ih]

theorem number_append (first : Nat) (before after : List Directive) :
    number first (before ++ after) =
      number first before ++ number (first + before.length) after := by
  induction before generalizing first with
  | nil => rfl
  | cons directive rest ih =>
    have place : first + 1 + rest.length = first + (rest.length + 1) := by omega
    simp [number, ih, place]

theorem number_add (first n : Nat) (directives : List Directive) :
    number (first + n) directives = (number first directives).map (Line.shift n) := by
  induction directives generalizing first with
  | nil => rfl
  | cons directive rest ih =>
    have place : first + n + 1 = first + 1 + n := by omega
    simp [number, Line.shift, place, ih]

theorem number_getElem? (first : Nat) (directives : List Directive) (i : Nat) :
    (number first directives)[i]? = directives[i]?.map fun d => ⟨first + i, d⟩ := by
  induction directives generalizing first i with
  | nil => simp [number]
  | cons directive rest ih =>
    cases i with
    | zero => rfl
    | succ i =>
      have place : first + 1 + i = first + (i + 1) := by omega
      simp [number, ih, place]

theorem parse_lines (source : Text) :
    (parse source).lines = number 1 ((Source.lines source).map meaning) := rfl

theorem parse_metadata (source : Text) :
    (parse source).metadata = Metadata.ofLines (Source.lines source) := rfl

theorem parse_directives (source : Text) :
    (parse source).directives = (Source.lines source).map meaning := by
  rw [directives, parse_lines, number_directives]

/-- A script that is given by its lines. -/
theorem parse_unlines {lines : List Text} (h : ∀ line ∈ lines, Text.Unbroken line) :
    parse (Text.unlines lines) = ⟨Metadata.ofLines lines, number 1 (lines.map meaning)⟩ := by
  rw [parse, Source.lines_unlines h]
  rfl

theorem meaning_captures {source line : Text} (h : line ∈ Source.lines source) :
    ∀ capture ∈ (meaning line).captures, Text.Unbroken capture := by
  intro capture hc
  have part : capture <:+: line := (Directive.ofLine_captures hc).trans (Text.trim_isInfix line)
  exact (Source.lines_unbroken h).of_isInfix part

theorem parse_field_unbroken {source value : Text} {key : Metadata.Key}
    (h : (parse source).metadata.field key = some value) : Text.Unbroken value := by
  rw [parse_metadata] at h
  rcases Metadata.ofLines_field_isInfix h with unnamed | ⟨line, hl, part⟩
  · cases key with
    | name =>
      obtain rfl := Option.some.inj unnamed
      decide
    | version | author => cases unnamed
  · exact (Source.lines_unbroken hl).of_isInfix part

end Script

namespace Plugin

theorem fragment?_eq_none_iff {d : Directive} : fragment? d = none ↔ d.isDropped = true := by
  cases d <;> simp [fragment?, Directive.isDropped]

theorem Generator.foldl_add (generator : Generator) (lines : List Line) :
    (lines.foldl add generator).fragments =
      generator.fragments ++ (lines.map (·.directive)).filterMap fragment? := by
  induction lines generalizing generator with
  | nil => simp
  | cons line rest ih =>
    rw [List.foldl_cons, ih]
    cases h : fragment? line.directive <;> simp [add, h]

theorem Generator.generate_fragments (generator : Generator) (script : Script) :
    (generator.generate script).plugin.fragments =
      generator.fragments ++ script.directives.filterMap fragment? :=
  foldl_add generator script.lines

/-- The fragments that a new generator makes of a source text. -/
def fragments (source : Text) : List Text :=
  (Generator.fresh.generate (Script.parse source)).plugin.fragments

theorem fragments_eq_directives (source : Text) :
    fragments source = (Script.parse source).directives.filterMap fragment? := by
  rw [fragments, Generator.generate_fragments]
  rfl

theorem fragments_eq (source : Text) :
    fragments source =
      (Source.lines source).filterMap fun line => fragment? (Script.meaning line) := by
  rw [fragments_eq_directives, Script.parse_directives, List.filterMap_map]
  rfl

theorem fragments_unlines {lines : List Text} (h : ∀ line ∈ lines, Text.Unbroken line) :
    fragments (Text.unlines lines) =
      lines.filterMap fun line => fragment? (Script.meaning line) := by
  rw [fragments_eq, Source.lines_unlines h]

/-- The text of a class depends on its name and its fragments. -/
theorem translate_eq (source : Text) :
    translate source = JavaClass.render ⟨(Script.parse source).metadata.name, fragments source⟩ :=
  rfl

end Plugin

end VoidScript
