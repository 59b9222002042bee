import VoidScript.Proofs.Script

/-!
Reading a source text in parts. A text that is cut between two lines is read as its parts are, one
after the other: the second part is only numbered further down, and its headers win.
-/

namespace VoidScript.Script

theorem parse_append_lines {s t : Text} (cut : Source.Cuts s t) :
    (parse (s ++ t)).lines =
      (parse s).lines ++ (parse t).lines.map (Line.shift (Source.lines s).length) := by
  rw [parse_lines, Source.lines_append cut, List.map_append, number_append, number_add,
    List.length_map]
  rfl

theorem parse_append_field {s t : Text} (cut : Source.Cuts s t) (key : Metadata.Key) :
    (parse (s ++ t)).metadata.field key =
      if key.heads (Source.lines t) then (parse t).metadata.field key
      else (parse s).metadata.field key := by
  rw [parse_metadata, Source.lines_append cut, Metadata.ofLines_append_field]
  rfl

theorem fragments_append {s t : Text} (cut : Source.Cuts s t) :
    Plugin.fragments (s ++ t) = Plugin.fragments s ++ Plugin.fragments t := by
  simp only [Plugin.fragments_eq, Source.lines_append cut, List.filterMap_append]

/-- Translation is compositional. The last two parts say what follows for a single line: its
directive and its fragment are its own, wherever it stands. -/
theorem translation_compositional {s t : Text} (cut : Source.Cuts s t) :
    Source.lines (s ++ t) = Source.lines s ++ Source.lines t ∧
    (parse (s ++ t)).lines =
      (parse s).lines ++ (parse t).lines.map (Line.shift (Source.lines s).length) ∧
    Plugin.fragments (s ++ t) = Plugin.fragments s ++ Plugin.fragments t ∧
    (∀ key : Metadata.Key, (parse (s ++ t)).metadata.field key =
      if key.heads (Source.lines t) then (parse t).metadata.field key
      else (parse s).metadata.field key) ∧
    (parse (s ++ t)).directives = (Source.lines (s ++ t)).map meaning ∧
    Plugin.fragments (s ++ t) =
      (Source.lines (s ++ t)).filterMap (fun line => Plugin.fragment? (meaning line)) :=
  ⟨Source.lines_append cut, parse_append_lines cut, fragments_append cut, parse_append_field cut,
    parse_directives (s ++ t), Plugin.fragments_eq (s ++ t)⟩

/-- A cut between two carriage returns, with a header for the name on both sides. -/
theorem translation_compositional_at_carriage_return :
    Source.Cuts "name: A\r".toList "\rname: B\r\nprint(1)".toList ∧
    Source.lines ("name: A\r".toList ++ "\rname: B\r\nprint(1)".toList) =
      Source.lines "name: A\r".toList ++ Source.lines "\rname: B\r\nprint(1)".toList ∧
    (parse ("name: A\r".toList ++ "\rname: B\r\nprint(1)".toList)).metadata.field .name =
      some "B".toList :=
  have cut : Source.Cuts "name: A\r".toList "\rname: B\r\nprint(1)".toList := by decide
  ⟨cut, (translation_compositional cut).1,
    ((translation_compositional cut).2.2.2.1 .name).trans (by decide +kernel)⟩

end VoidScript.Script
