import VoidScript.Proofs.Script

/-!
Blanks around lines. A line means the same with blanks before and after it. Only headers have to
stand in the first column, so indentation hides them and changes nothing else.

* `meaning_text`, `Key.value?_text`: what a line means, and what a header says, with blanks around
  it;
* `parse_padded_lines`, `parse_padded_metadata`: what is read of lines with blanks around them;
* `padding_irrelevant`: hence the script is the same where no header is indented.
-/

namespace VoidScript

namespace Source

/-- Blanks that stay on their line. -/
structure Padding where
  text : Text
  blank : Text.Blank text
  unbroken : Text.Unbroken text

structure PaddedLine where
  before : Padding
  line : Text
  after : Padding
  unbroken : Text.Unbroken line

namespace PaddedLine

def text (padded : PaddedLine) : Text :=
  padded.before.text ++ (padded.line ++ padded.after.text)

def isIndented (padded : PaddedLine) : Bool := !padded.before.text.isEmpty

theorem text_unbroken (padded : PaddedLine) : Text.Unbroken padded.text := by
  simp [text, padded.before.unbroken, padded.unbroken, padded.after.unbroken]

end PaddedLine

end Source

namespace Metadata

theorem Key.value?_text (key : Key) (padded : Source.PaddedLine) :
    key.value? padded.text = if padded.isIndented then none else key.value? padded.line := by
  cases indented : padded.isIndented with
  | true =>
    have hne : padded.before.text ≠ [] := by
      simpa [Source.PaddedLine.isIndented] using indented
    exact key.value?_indented padded.before.blank hne _
  | false =>
    have empty : padded.before.text = [] := by
      simpa [Source.PaddedLine.isIndented] using indented
    rw [Source.PaddedLine.text, empty, List.nil_append, key.value?_append padded.after.blank]
    rfl

end Metadata

namespace Script

open Metadata (Key)
open Source (PaddedLine)

theorem meaning_text (padded : PaddedLine) : meaning padded.text = meaning padded.line := by
  rw [meaning, PaddedLine.text, Text.trim_padded padded.before.blank padded.after.blank]
  rfl

section

variable (padded : List PaddedLine)

theorem forall_line_unbroken : ∀ line ∈ padded.map (·.line), Text.Unbroken line :=
  List.forall_mem_map.mpr fun line _ => line.unbroken

theorem forall_text_unbroken : ∀ line ∈ padded.map (·.text), Text.Unbroken line :=
  List.forall_mem_map.mpr fun line _ => line.text_unbroken

theorem parse_padded_lines :
    (parse (Text.unlines (padded.map (·.text)))).lines =
      (parse (Text.unlines (padded.map (·.line)))).lines := by
  rw [parse_unlines (forall_line_unbroken padded), parse_unlines (forall_text_unbroken padded)]
  simp only [List.map_map, Function.comp_def, meaning_text]

theorem fragments_padded :
    Plugin.fragments (Text.unlines (padded.map (·.text))) =
      Plugin.fragments (Text.unlines (padded.map (·.line))) := by
  rw [Plugin.fragments_eq_directives, directives, parse_padded_lines,
    Plugin.fragments_eq_directives, directives]

/-- Only what stands in the first column is a header. -/
theorem parse_padded_metadata :
    (parse (Text.unlines (padded.map (·.text)))).metadata =
      Metadata.ofLines ((padded.filter (!·.isIndented)).map (·.line)) := by
  rw [parse_unlines (forall_text_unbroken padded)]
  refine Metadata.ofLines_congr fun key => ?_
  rw [List.filterMap_map, List.filterMap_map, List.filterMap_filter]
  refine List.filterMap_congr fun line _ => ?_
  rw [Function.comp_apply, key.value?_text]
  cases line.isIndented <;> rfl

end

/-- Where no header is indented, nothing is hidden. -/
theorem ofLines_unindented {padded : List PaddedLine}
    (exposed : ∀ line ∈ padded, ∀ key : Key, key.text <+: line.line → line.before.text = []) :
    Metadata.ofLines ((padded.filter (!·.isIndented)).map (·.line)) =
      Metadata.ofLines (padded.map (·.line)) := by
  refine Metadata.ofLines_congr fun key => ?_
  rw [List.filterMap_map, List.filterMap_map, List.filterMap_filter]
  refine List.filterMap_congr fun line hl => ?_
  cases indented : line.isIndented with
  | false => rfl
  | true =>
    refine (Key.value?_eq_none_iff.mpr fun header => ?_).symm
    simp [PaddedLine.isIndented, exposed line hl key header] at indented

/-- Blanks around the lines of a script change no directive and no fragment. They change the metadata
only by hiding the headers that are indented, so the whole script stays the same where none is. -/
theorem padding_irrelevant (padded : List PaddedLine) :
    let original := Text.unlines (padded.map (·.line))
    let source := Text.unlines (padded.map (·.text))
    (parse source).lines = (parse original).lines ∧
    Plugin.fragments source = Plugin.fragments original ∧
    (parse source).metadata =
      Metadata.ofLines ((padded.filter (!·.isIndented)).map (·.line)) ∧
    ((∀ line ∈ padded, ∀ key : Key, key.text <+: line.line → line.before.text = []) →
      parse source = parse original ∧ Plugin.translate source = Plugin.translate original) := by
  intro original source
  have lines : (parse source).lines = (parse original).lines := parse_padded_lines padded
  have fragments : Plugin.fragments source = Plugin.fragments original := fragments_padded padded
  refine ⟨lines, fragments, parse_padded_metadata padded, fun exposed => ?_⟩
  have metadata : (parse source).metadata = (parse original).metadata := by
    rw [parse_padded_metadata, ofLines_unindented exposed,
      parse_unlines (forall_line_unbroken padded)]
  constructor
  · calc
      parse source = ⟨(parse source).metadata, (parse source).lines⟩ := rfl
      _ = ⟨(parse original).metadata, (parse original).lines⟩ := by rw [metadata, lines]
      _ = parse original := rfl
  · rw [Plugin.translate_eq, Plugin.translate_eq, metadata, fragments]

/-- Breaks and separators that end no line here stand behind a header and around a call. -/
theorem padding_irrelevant_among_separators :
    let header : PaddedLine :=
      ⟨⟨[], by decide, by decide⟩, "name: \"A\"".toList, ⟨"\u2028 ".toList, by decide, by decide⟩,
        by decide⟩
    let call : PaddedLine :=
      ⟨⟨"\x0b\u0085".toList, by decide, by decide⟩, "print( 1 )".toList,
        ⟨"\x0c".toList, by decide, by decide⟩, by decide⟩
    let padded := Text.unlines [header.text, call.text]
    let original := Text.unlines [header.line, call.line]
    (∀ line ∈ [header, call], ∀ key : Key, key.text <+: line.line → line.before.text = []) ∧
      parse padded = parse original ∧ Plugin.translate padded = Plugin.translate original := by
  intro header call padded original
  have exposed : ∀ line ∈ [header, call], ∀ key : Key,
      key.text <+: line.line → line.before.text = [] := by
    refine List.forall_mem_cons.mpr ⟨fun _ _ => rfl, List.forall_mem_singleton.mpr ?_⟩
    intro key
    cases key <;> decide
  exact ⟨exposed, (padding_irrelevant [header, call]).2.2.2 exposed⟩

end Script

end VoidScript
