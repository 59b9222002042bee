import VoidScript.Proofs.Script

/-!
Deleting lines that were dropped. A dropped line has no fragment, and it is no header either, so a
script is the same without it.

* `meaning_header`: a header is passed through, whatever follows its key;
* `filterMap_without`: what no dropped line contributes to does not change when some are deleted;
* `metadata_without`, `fragments_without`: this holds of the headers and of the fragments;
* `dropped_lines_leave_no_trace`: hence of the whole class.
-/

namespace VoidScript

/-- The lines that are left when those with certain numbers are deleted. The first line has the
number `first`. -/
def Source.without (deleted : Nat → Bool) (first : Nat) : List Text → List Text
  | [] => []
  | line :: rest =>
      if deleted first then without deleted (first + 1) rest
      else line :: without deleted (first + 1) rest

theorem Source.without_sublist (deleted : Nat → Bool) (first : Nat) (lines : List Text) :
    (without deleted first lines).Sublist lines := by
  induction lines generalizing first with
  | nil => exact List.Sublist.slnil
  | cons line lines ih =>
    rw [without]
    split
    · exact (ih (first + 1)).cons line
    · exact (ih (first + 1)).cons_cons line

theorem Source.without_unbroken {lines : List Text} (h : ∀ line ∈ lines, Text.Unbroken line)
    {deleted : Nat → Bool} {first : Nat} :
    ∀ line ∈ without deleted first lines, Text.Unbroken line :=
  fun line hl => h line ((without_sublist deleted first lines).subset hl)

namespace Metadata

/-- A key is a word and a colon. -/
theorem Key.exists_word (key : Key) :
    ∃ word : Text, (∀ c ∈ word, Text.isWord c = true) ∧ key.text = word ++ [':'] := by
  have words : ∀ word : String, word.toList.all Text.isWord = true →
      ∀ c ∈ word.toList, Text.isWord c = true := fun _ => List.all_eq_true.mp
  cases key with
  | name => exact ⟨"name".toList, words _ (by decide +kernel), rfl⟩
  | version => exact ⟨"version".toList, words _ (by decide +kernel), rfl⟩
  | author => exact ⟨"author".toList, words _ (by decide +kernel), rfl⟩

end Metadata

namespace Script

open Metadata (Key)

theorem ofLine_key (key : Key) (rest : Text) :
    Directive.ofLine (key.text ++ rest) = .passthrough (key.text ++ rest) := by
  have literal : Directive.isCollectionLiteral (key.text ++ rest) = false := by
    obtain ⟨word, hw, hk⟩ := key.exists_word
    rw [hk, List.append_assoc]
    exact Directive.isCollectionLiteral_eq_false hw (by decide +kernel) rfl (by decide)
  rw [Directive.ofLine, literal]
  cases key <;> rfl

/-- A header is passed through. Trimming does not reach its key. -/
theorem meaning_header {key : Key} {line : Text} (h : key.text <+: line) :
    meaning line = .passthrough (Text.trim line) := by
  obtain ⟨rest, rfl⟩ := h
  rw [meaning, Text.trim_solid_append key.text_solid key.text_ne_nil, ofLine_key]

theorem value?_of_dropped {line : Text} (h : (meaning line).isDropped = true) (key : Key) :
    key.value? line = none := by
  refine Key.value?_eq_none_iff.mpr fun header => ?_
  rw [meaning_header header] at h
  cases h

/-- The numbers stand only for lines that were dropped. -/
def Spares (deleted : Nat → Bool) (lines : List Line) : Prop :=
  ∀ line ∈ lines, deleted line.number = true → line.directive.isDropped = true

instance (deleted : Nat → Bool) (lines : List Line) : Decidable (Spares deleted lines) :=
  inferInstanceAs (Decidable (∀ line ∈ lines, _))

/-- What no dropped line contributes to does not change when dropped lines are deleted. -/
theorem filterMap_without {f : Text → Option α}
    (silent : ∀ line, (meaning line).isDropped = true → f line = none) {deleted : Nat → Bool}
    {first : Nat} {lines : List Text} (h : Spares deleted (number first (lines.map meaning))) :
    (Source.without deleted first lines).filterMap f = lines.filterMap f := by
  induction lines generalizing first with
  | nil => rfl
  | cons line lines ih =>
    obtain ⟨here, later⟩ := List.forall_mem_cons.mp h
    rw [Source.without]
    split
    · rename_i gone
      rw [ih later, List.filterMap_cons_none (silent line (here gone))]
    · rw [List.filterMap_cons, List.filterMap_cons, ih later]

section

variable {lines : List Text} {deleted : Nat → Bool}

theorem metadata_without (unbroken : ∀ line ∈ lines, Text.Unbroken line)
    (spares : Spares deleted (parse (Text.unlines lines)).lines) :
    (parse (Text.unlines (Source.without deleted 1 lines))).metadata =
      (parse (Text.unlines lines)).metadata := by
  rw [parse_unlines unbroken] at spares ⊢
  rw [parse_unlines (Source.without_unbroken unbroken)]
  exact Metadata.ofLines_congr fun key =>
    filterMap_without (fun _ h => value?_of_dropped h key) spares

theorem fragments_without (unbroken : ∀ line ∈ lines, Text.Unbroken line)
    (spares : Spares deleted (parse (Text.unlines lines)).lines) :
    Plugin.fragments (Text.unlines (Source.without deleted 1 lines)) =
      Plugin.fragments (Text.unlines lines) := by
  rw [parse_unlines unbroken] at spares
  rw [Plugin.fragments_unlines unbroken, Plugin.fragments_unlines (Source.without_unbroken unbroken)]
  exact filterMap_without (fun _ h => Plugin.fragment?_eq_none_iff.mpr h) spares

end

/-- A header adds its own line to the fragments of the lines around it. -/
theorem fragments_header {before after : List Text} {line : Text} {key : Key}
    (unbroken : ∀ l ∈ before ++ line :: after, Text.Unbroken l) (header : key.text <+: line) :
    Plugin.fragments (Text.unlines (before ++ line :: after)) =
      Plugin.fragments (Text.unlines before) ++
        ("    ".toList ++ Text.trim line) :: Plugin.fragments (Text.unlines after) := by
  obtain ⟨front, back⟩ := List.forall_mem_append.mp unbroken
  rw [Plugin.fragments_unlines unbroken, Plugin.fragments_unlines front,
    Plugin.fragments_unlines (List.forall_mem_cons.mp back).2, List.filterMap_append,
    List.filterMap_cons, meaning_header header]
  rfl

/-- Lines that were dropped leave no trace: without any choice of them a script has the same
metadata and gives the same class. No header is among them, since each of them is passed through
and gives one fragment. -/
theorem dropped_lines_leave_no_trace {lines : List Text}
    (unbroken : ∀ line ∈ lines, Text.Unbroken line) :
    let source := Text.unlines lines
    let plugin := fun text => (Plugin.Generator.fresh.generate (parse text)).plugin
    (∀ deleted, Spares deleted (parse source).lines →
      let rest := Text.unlines (Source.without deleted 1 lines)
      (parse rest).metadata = (parse source).metadata ∧
      (plugin rest).name = (plugin source).name ∧
      (plugin rest).fragments = (plugin source).fragments ∧
      Plugin.translate rest = Plugin.translate source) ∧
    (∀ before line after, lines = before ++ line :: after →
      ∀ key : Key, key.text <+: line →
        (parse source).lines[before.length]? =
          some ⟨before.length + 1, .passthrough (Text.trim line)⟩ ∧
        (plugin source).fragments = (plugin (Text.unlines before)).fragments ++
          ("    ".toList ++ Text.trim line) :: (plugin (Text.unlines after)).fragments) := by
  intro source plugin
  constructor
  · intro deleted spares rest
    have metadata : (parse rest).metadata = (parse source).metadata :=
      metadata_without unbroken spares
    have fragments : Plugin.fragments rest = Plugin.fragments source :=
      fragments_without unbroken spares
    have name : (parse rest).metadata.name = (parse source).metadata.name := by rw [metadata]
    refine ⟨metadata, name, fragments, ?_⟩
    rw [Plugin.translate_eq, Plugin.translate_eq, name, fragments]
  · rintro before line after rfl key header
    refine ⟨?_, fragments_header unbroken header⟩
    rw [parse_unlines unbroken, number_getElem?, List.map_append, List.map_cons,
      meaning_header header]
    simp [Nat.add_comm]

/-- Two of three dropped lines are deleted around two headers, of which the second wins. -/
theorem dropped_lines_leave_no_trace_around_headers :
    let lines := ["looper = [list]", "name: A", "ifdef", "name:\t\"B\" ", "def x", "print(1)"].map
      String.toList
    let deleted := fun n => n == 1 || n == 5
    let rest := ["name: A", "ifdef", "name:\t\"B\" ", "print(1)"].map String.toList
    (∀ line ∈ lines, Text.Unbroken line) ∧ Spares deleted (parse (Text.unlines lines)).lines ∧
      Plugin.translate (Text.unlines rest) = Plugin.translate (Text.unlines lines) ∧
      (parse (Text.unlines lines)).lines[3]? = some ⟨4, .passthrough "name:\t\"B\"".toList⟩ := by
  intro lines deleted rest
  have unbroken : ∀ line ∈ lines, Text.Unbroken line := by decide
  have spares : Spares deleted (parse (Text.unlines lines)).lines := by decide +kernel
  obtain ⟨deletion, headers⟩ := dropped_lines_leave_no_trace unbroken
  exact ⟨unbroken, spares, (deletion deleted spares).2.2.2,
    (headers (lines.take 3) _ (lines.drop 4) rfl .name (by decide)).1⟩

end Script

end VoidScript
