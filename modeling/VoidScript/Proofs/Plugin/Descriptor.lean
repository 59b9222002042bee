import VoidScript.Plugin.Descriptor
import VoidScript.Proofs.Yaml.Scalar

/-!
The text of a descriptor holds all of it. No value runs into the next key, and whether there is an
author can be told.

* `keyed?_field`: an entry is read back by its key, with the style of its value;
* `ofYaml?_yaml`: hence the descriptor is read back from its text;
* `write_unlike_plain`: a value that could be taken for another is marked as a string.
-/

namespace VoidScript

namespace Yaml.Scalar

/-- The value behind a key, with its style and what follows the entry. -/
def keyed? (key : String) (s : Text) : Option (Style × Text × Text) :=
  (Text.after? (key.toList ++ [':', ' ']) s).bind read?

theorem keyed?_field (key : String) (value : Text) {rest : Text} (fresh : Fresh rest) :
    keyed? key (field key.toList value ++ rest) = some (style value, value, rest) := by
  have split : field key.toList value ++ rest = (key.toList ++ [':', ' '])
      ++ (write value ++ ((if endsLine value then [] else ['\n']) ++ rest)) := by
    simp [field]
  have behind := Text.after?_eq_some_iff.mpr split
  rw [keyed?, behind, Option.bind_some, read?_write value fresh]

/-- A key stands at the start of its line. -/
theorem fresh_field (key : String) {c : Char} (hk : key.toList.head? = some c)
    (hc : c ≠ ' ' ∧ isBreak c = false) (value rest : Text) :
    Fresh (field key.toList value ++ rest) := by
  obtain ⟨tail, ht⟩ := List.head?_eq_some_iff.mp hk
  intro d hd
  obtain rfl : c = d := by simpa [field, ht] using hd
  exact hc

theorem fresh_nil : Fresh [] := nofun

/-- The first character of a value that is not plain says so. -/
theorem write_unlike_plain {s : Text} (h : style s ≠ .plain) :
    ∃ mark ∈ ['\x27', '\x22', '|'], (write s).head? = some mark := by
  unfold write
  cases hs : style s with
  | plain => exact absurd hs h
  | singleQuoted => exact ⟨'\x27', by simp, rfl⟩
  | doubleQuoted => exact ⟨'\x22', by simp, rfl⟩
  | literal => exact ⟨'|', by simp, rfl⟩

theorem isAmbiguous_iff {s : Text} :
    isAmbiguous s = true ↔
      s = [] ∨ s ∈ ["null", "Null", "NULL", "~"].map String.toList ∨
        s ∈ ["true", "True", "TRUE", "false", "False", "FALSE"].map String.toList ∨
        Number.isInteger s = true ∨ Number.isFloat s = true ∨ Number.isPadded s = true := by
  have words : ["null", "Null", "NULL", "~", "true", "True", "TRUE", "false", "False",
        "FALSE"].any (·.toList == s) = true ↔
      s ∈ ["null", "Null", "NULL", "~"].map String.toList ∨
        s ∈ ["true", "True", "TRUE", "false", "False", "FALSE"].map String.toList := by
    rw [← List.mem_append, ← List.map_append, List.mem_map, List.any_eq_true]
    simp only [beq_iff_eq, List.cons_append, List.nil_append]
  simp only [isAmbiguous, Bool.or_eq_true, List.isEmpty_iff, words, or_assoc]

theorem style_of_isAmbiguous {s : Text} (h : isAmbiguous s = true) : style s ≠ .plain := by
  intro plain
  rw [(style_eq_plain plain).1] at h
  cases h

end Yaml.Scalar

namespace Plugin.Descriptor

open Yaml.Scalar

/-- The descriptor of which a text is the whole. -/
def ofYaml? (text : Text) : Option Descriptor := do
  let (_, name, rest) ← keyed? "name" text
  let (_, version, rest) ← keyed? "version" rest
  let (_, main, rest) ← keyed? "main" rest
  if rest.isEmpty then return ⟨name, version, main, none⟩
  else
    let (_, author, rest) ← keyed? "author" rest
    if rest.isEmpty then return ⟨name, version, main, some author⟩ else none

theorem yaml_eq (d : Descriptor) :
    d.yaml = field "name".toList d.name ++ (field "version".toList d.version
      ++ (field "main".toList d.main ++ d.author.toList.flatMap (field "author".toList))) := by
  simp [yaml]

theorem fresh_author (author : Option Text) :
    Fresh (author.toList.flatMap (field "author".toList)) := by
  cases author with
  | none => exact fresh_nil
  | some author => simpa using fresh_field "author" rfl (by decide) author []

theorem ofYaml?_yaml (d : Descriptor) : ofYaml? d.yaml = some d := by
  obtain ⟨name, version, main, author⟩ := d
  have name_entry (rest : Text) :=
    keyed?_field "name" name (fresh_field "version" rfl (by decide) version rest)
  have version_entry (rest : Text) :=
    keyed?_field "version" version (fresh_field "main" rfl (by decide) main rest)
  have main_entry := keyed?_field "main" main (fresh_author author)
  simp only [yaml_eq, ofYaml?, name_entry, version_entry, main_entry, Option.bind_eq_bind,
    Option.bind_some, Option.pure_def]
  cases author with
  | none => rfl
  | some author =>
    have author_entry := keyed?_field "author" author fresh_nil
    rw [List.append_nil] at author_entry
    have present : field "author".toList author ≠ [] := by simp [field]
    simp only [Option.toList_some, List.flatMap_singleton, List.isEmpty_iff, present, ↓reduceIte,
      author_entry, Option.bind_some]

theorem yaml_injective : Function.Injective yaml := by
  intro d e h
  have read := ofYaml?_yaml d
  rw [h, ofYaml?_yaml e] at read
  exact (Option.some.inj read).symm

/-- The text of a descriptor is lossless. It determines the descriptor, and a reader gets every
value back with its style, whatever stands in it; and no value that stands for something other than
a string is written plainly. -/
theorem yaml_lossless :
    (∀ d e : Descriptor, d.yaml = e.yaml → d = e) ∧
    (∀ d : Descriptor, ofYaml? d.yaml = some d) ∧
    (∀ (key : String) (value rest : Text), Fresh rest →
      keyed? key (field key.toList value ++ rest) = some (style value, value, rest)) ∧
    (∀ s : Text,
      s = [] ∨ s ∈ ["null", "Null", "NULL", "~"].map String.toList ∨
        s ∈ ["true", "True", "TRUE", "false", "False", "FALSE"].map String.toList ∨
        Yaml.Number.isInteger s = true ∨ Yaml.Number.isFloat s = true ∨
        Yaml.Number.isPadded s = true →
      style s ≠ .plain ∧ ∃ mark ∈ ['\x27', '\x22', '|'], (write s).head? = some mark) ∧
    ∀ s : Text, style s = .plain → ∀ mark ∈ ['\x27', '\x22', '|'], (write s).head? ≠ some mark := by
  refine ⟨fun d e h => yaml_injective h, ofYaml?_yaml, fun key value rest => keyed?_field key value,
    ?_, ?_⟩
  · intro s h
    have quoted := style_of_isAmbiguous (isAmbiguous_iff.mpr h)
    exact ⟨quoted, write_unlike_plain quoted⟩
  · intro s plain mark hm
    obtain ⟨c, rest, rfl, single, double, bar, -⟩ := plain_text plain
    simp only [List.mem_cons, List.not_mem_nil, or_false] at hm
    simp only [write, plain, writeAs, List.head?_cons, ne_eq, Option.some.injEq]
    rcases hm with rfl | rfl | rfl
    · exact single
    · exact double
    · exact bar

/-- A name of two lines, a version that is a number, and an author that means nothing. -/
theorem yaml_lossless_with_default_version :
    let name := "a:\n  b".toList
    let author := "~".toList
    let d := ofMetadata ⟨name, none, some author⟩
    let e := ofMetadata ⟨name, some "1.0".toList, some author⟩
    d.yaml = e.yaml ∧ d = e ∧ ofYaml? d.yaml = some d ∧
    Fresh [] ∧ keyed? "author" (field "author".toList author ++ []) =
      some (.singleQuoted, author, []) ∧
    Yaml.Number.isFloat "1.0".toList = true ∧ style "1.0".toList ≠ .plain ∧
    style "Greeter".toList = .plain ∧ (write "Greeter".toList).head? ≠ some '|' := by
  intro name author d e
  obtain ⟨injective, read, entries, quoted, plain⟩ := yaml_lossless
  have number : Yaml.Number.isFloat "1.0".toList = true := by decide +kernel
  have word : style "Greeter".toList = .plain := by decide +kernel
  refine ⟨rfl, injective d e rfl, read d, fresh_nil, ?_, number, ?_, word,
    plain _ word '|' (by simp)⟩
  · exact (entries "author" author [] fresh_nil).trans (by decide +kernel)
  · exact (quoted _ (.inr (.inr (.inr (.inr (.inl number)))))).1

end Plugin.Descriptor

end VoidScript
