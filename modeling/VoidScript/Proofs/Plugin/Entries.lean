import VoidScript.Proofs.Plugin.Descriptor
import VoidScript.Proofs.Script

/-!
The lines of a descriptor. A header value is unbroken, but it may hold any other character, also such
as end a line for some readers. What is written of it ends no line, and holds raw breaks of that kind
only between single quotes.

* `escape_unbroken`: no escape holds a break;
* `write_break`: so a break that is written raw is one of the text, in single quotes;
* `yaml_eq_unlines`: hence each entry of a descriptor with unbroken values is one line;
* `headers_add_no_entry`: the descriptor of a script has its three or four lines, whatever its headers
  say.
-/

namespace VoidScript

namespace Yaml.Scalar

/-! ## Breaks in written values -/

theorem hexadecimal_unbroken (width code : Nat) : ∀ c ∈ hexadecimal width code, isBreak c = false := by
  intro c hc
  rcases List.mem_append.mp hc with zero | digit
  · rw [List.eq_of_mem_replicate zero]
    rfl
  · obtain ⟨d, hd, rfl⟩ := List.mem_map.mp digit
    have each : ∀ d < 16, isBreak d.digitChar.toUpper = false := by decide
    exact Number.forall_mem_toDigits (p := fun c => isBreak c.toUpper = false) (by decide) each code
      d hd

theorem codeEscape_unbroken (code : Nat) : ∀ c ∈ codeEscape code, isBreak c = false := by
  have marked (letter : Char) (width : Nat) (h : isBreak letter = false) :
      ∀ c ∈ '\\' :: letter :: hexadecimal width code, isBreak c = false :=
    List.forall_mem_cons.mpr ⟨rfl, List.forall_mem_cons.mpr ⟨h, hexadecimal_unbroken width code⟩⟩
  unfold codeEscape
  split_ifs
  · exact marked 'x' 2 rfl
  · exact marked 'u' 4 rfl
  · exact marked 'U' 8 rfl

theorem named_unbroken : ∀ entry ∈ named, isBreak entry.2 = false := by decide

theorem named_of_isBreak {c : Char} (h : isBreak c = true) : named.lookup c ≠ none := by
  simp only [isBreak, Bool.or_eq_true, beq_iff_eq] at h
  rcases h with (((rfl | rfl) | rfl) | rfl) | rfl <;> decide

/-- Every break has a name, so none is written as it is. -/
theorem escape_unbroken (c : Char) : ∀ d ∈ escape c, isBreak d = false := by
  unfold escape
  split
  · rename_i letter found
    obtain ⟨before, after, split, -⟩ := List.lookup_eq_some_iff.mp found
    have listed : (c, letter) ∈ named := by simp [split]
    simpa using ⟨by decide, named_unbroken _ listed⟩
  · rename_i unnamed
    split
    · have unbroken : isBreak c = false := Bool.eq_false_iff.mpr fun h => named_of_isBreak h unnamed
      simpa using unbroken
    · exact codeEscape_unbroken c.toNat

theorem mem_singleQuotedBody {d : Char} {atLineStart : Bool} {s : Text}
    (h : d ∈ singleQuotedBody atLineStart s) : d = ' ' ∨ d ∈ s := by
  have space {atLineStart : Bool} (h : d ∈ indent atLineStart) : d = ' ' := by
    cases atLineStart with
    | true => simpa [indent] using h
    | false => cases h
  induction s generalizing atLineStart with
  | nil => exact .inl (space h)
  | cons c s ih =>
    have later {start : Bool} (inside : d ∈ singleQuotedBody start s) : d = ' ' ∨ d ∈ c :: s :=
      (ih inside).imp_right (List.mem_cons_of_mem c)
    simp only [singleQuotedBody] at h
    split at h
    · rcases List.mem_cons.mp h with rfl | inside
      · exact .inr List.mem_cons_self
      · exact later inside
    · rcases List.mem_append.mp h with front | inside
      · rcases List.mem_append.mp front with indented | here
        · exact .inl (space indented)
        · obtain rfl : d = c := by split at here <;> simpa using here
          exact .inr List.mem_cons_self
      · exact later inside

/-- A break that is written raw was in the text, which then stands in single quotes. -/
theorem write_break {s : Text} (feed : '\n' ∉ s) {d : Char} (h : d ∈ write s)
    (hd : isBreak d = true) : style s = .singleQuoted ∧ d ∈ s := by
  unfold write at h
  cases hs : style s with
  | plain =>
    rw [hs] at h
    have allowed := (style_eq_plain hs).2
    simp only [plainAllowed, Bool.and_eq_true, Bool.not_eq_true', List.any_eq_false] at allowed
    exact absurd hd (allowed.1.2 d h)
  | singleQuoted =>
    rw [hs, writeAs] at h
    refine ⟨rfl, ?_⟩
    have quote : d ≠ '\x27' := by rintro rfl; cases hd
    have inside : d ∈ singleQuotedBody false s := by simpa [quote] using h
    rcases mem_singleQuotedBody inside with rfl | inside
    · cases hd
    · exact inside
  | doubleQuoted =>
    rw [hs, writeAs] at h
    have quote : d ≠ '\x22' := by rintro rfl; cases hd
    obtain ⟨c, -, escaped⟩ : ∃ c ∈ s, d ∈ escape c := by simpa [quote] using h
    rw [escape_unbroken c d escaped] at hd
    cases hd
  | literal => exact absurd (style_eq_literal hs) feed

theorem write_unbroken {s : Text} (h : Text.Unbroken s) : Text.Unbroken (write s) :=
  ⟨fun inside => h.1 (write_break h.2 inside rfl).2, fun inside => h.2 (write_break h.2 inside rfl).2⟩

theorem style_ne_literal {s : Text} (feed : '\n' ∉ s) : style s ≠ .literal :=
  fun h => feed (style_eq_literal h)

/-! ## Entries -/

/-- An entry without the end of its last line. -/
def entryText (entry : String × Text) : Text := entry.1.toList ++ ": ".toList ++ write entry.2

theorem field_eq_entryText {entry : String × Text} (feed : '\n' ∉ entry.2) :
    field entry.1.toList entry.2 = entryText entry ++ ['\n'] := by
  have ends : endsLine entry.2 = false := by simp [endsLine, style_ne_literal feed]
  simp [field, entryText, ends]

end Yaml.Scalar

namespace Plugin.Descriptor

open Yaml.Scalar

/-- The entries of a descriptor in their order. -/
def entries (d : Descriptor) : List (String × Text) :=
  [("name", d.name), ("version", d.version), ("main", d.main)]
    ++ d.author.toList.map fun author => ("author", author)

theorem yaml_eq_flatMap (d : Descriptor) :
    d.yaml = d.entries.flatMap fun entry => field entry.1.toList entry.2 := by
  cases h : d.author <;> simp [yaml, entries, h]

theorem yaml_eq_unlines {d : Descriptor} (h : ∀ entry ∈ d.entries, '\n' ∉ entry.2) :
    d.yaml = Text.unlines (d.entries.map entryText) := by
  rw [yaml_eq_flatMap, Text.unlines, List.flatMap_map]
  exact List.flatMap_congr fun entry listed => field_eq_entryText (h entry listed)

theorem map_fst_entries (d : Descriptor) :
    d.entries.map Prod.fst =
      if d.author.isSome then ["name", "version", "main", "author"]
      else ["name", "version", "main"] := by
  cases h : d.author <;> simp [entries, h]

theorem key_unbroken {d : Descriptor} {entry : String × Text} (h : entry ∈ d.entries) :
    ∀ c ∈ entry.1.toList ++ ": ".toList, isBreak c = false := by
  have keys : ∀ key ∈ ["name", "version", "main", "author"],
      (key.toList ++ ": ".toList).any isBreak = false := by decide
  have listed : entry.1 ∈ d.entries.map Prod.fst := List.mem_map_of_mem h
  have known : entry.1 ∈ ["name", "version", "main", "author"] := by
    rw [map_fst_entries] at listed
    split at listed
    · exact listed
    · exact (List.prefix_append _ ["author"]).subset listed
  intro c hc
  exact Bool.eq_false_iff.mpr (List.any_eq_false.mp (keys _ known) c hc)

theorem entryText_unbroken {d : Descriptor} {entry : String × Text} (h : entry ∈ d.entries)
    (value : Text.Unbroken entry.2) : Text.Unbroken (entryText entry) := by
  have key : Text.Unbroken (entry.1.toList ++ ": ".toList) := by
    constructor
    · intro hr
      cases key_unbroken h '\r' hr
    · intro hn
      cases key_unbroken h '\n' hn
  exact Text.unbroken_append.mpr ⟨key, write_unbroken value⟩

theorem entries_ofMetadata (metadata : Metadata) :
    (ofMetadata metadata).entries =
      [("name", metadata.name), ("version", metadata.version.getD defaultVersion),
        ("main", metadata.name)] ++ metadata.author.toList.map fun author => ("author", author) := rfl

/-- Headers are read from single lines. -/
theorem ofMetadata_unbroken (source : Text) :
    ∀ entry ∈ (ofMetadata (Script.parse source).metadata).entries, Text.Unbroken entry.2 := by
  have value (key : Metadata.Key) {text : Text}
      (h : (Script.parse source).metadata.field key = some text) : Text.Unbroken text :=
    Script.parse_field_unbroken h
  generalize (Script.parse source).metadata = metadata at value ⊢
  have name : Text.Unbroken metadata.name := value .name rfl
  have version : Text.Unbroken (metadata.version.getD defaultVersion) := by
    cases h : metadata.version with
    | none => decide
    | some version => exact value .version h
  have author : ∀ author ∈ metadata.author.toList, Text.Unbroken author := by
    intro author h
    exact value .author (Option.mem_toList.mp h)
  rw [entries_ofMetadata, List.forall_mem_append]
  exact ⟨by simp [name, version], by simpa using author⟩

/-- The place is between the quotes of a value. -/
def InQuotes (d : Descriptor) (before : Text) (c : Char) (after : Text) : Prop :=
  ∃ earlier entry later left right, d.entries = earlier ++ entry :: later ∧
    style entry.2 = .singleQuoted ∧ write entry.2 = '\x27' :: (left ++ c :: right) ++ ['\x27'] ∧
    before = Text.unlines (earlier.map entryText)
      ++ (entry.1.toList ++ ": ".toList ++ '\x27' :: left) ∧
    after = right ++ '\x27' :: '\n' :: Text.unlines (later.map entryText)

theorem inQuotes_of_isBreak {d : Descriptor} (h : ∀ entry ∈ d.entries, '\n' ∉ entry.2)
    {before after : Text} {c : Char} (hc : isBreak c = true) (hn : c ≠ '\n')
    (place : d.yaml = before ++ c :: after) : InQuotes d before c after := by
  rw [yaml_eq_unlines h] at place
  obtain ⟨lines, line, lines', left, right, split, hline, rfl, rfl⟩ :=
    Text.unlines_eq_append_cons hn place
  obtain ⟨earlier, rest, hentries, rfl, hrest⟩ := List.map_eq_append_iff.mp split
  obtain ⟨entry, later, rfl, rfl, rfl⟩ := List.map_eq_cons_iff.mp hrest
  have listed : entry ∈ d.entries := by simp [hentries]
  -- The key holds no break, so the place is in the value, which then stands in single quotes.
  have key : c ∉ entry.1.toList ++ ": ".toList := by
    intro inside
    rw [key_unbroken listed c inside] at hc
    cases hc
  obtain ⟨front, rfl, hwrite⟩ := Text.exists_behind key hline
  have held : c ∈ write entry.2 := by simp [hwrite]
  have quoted := (write_break (h entry listed) held hc).1
  rw [write, quoted, writeAs, List.append_assoc] at hwrite
  have quote : c ∉ ['\x27'] := by
    intro same
    obtain rfl := List.mem_singleton.mp same
    cases hc
  obtain ⟨left, rfl, hbody⟩ := Text.exists_behind quote hwrite
  obtain ⟨right, rfl, body⟩ := Text.exists_before quote hbody
  refine ⟨earlier, entry, later, left, right, hentries, quoted, ?_, by simp, by simp⟩
  rw [write, quoted, writeAs, body]
  simp

/-- No header text brings a line or a key into the descriptor. For every source it has one line for
each of its entries, in their order; no value is a literal block, the name is written twice in the
same way, and what some readers take for the end of a line stands between single quotes. -/
theorem headers_add_no_entry (source : Text) :
    let metadata := (Script.parse source).metadata
    let d := ofMetadata metadata
    d.yaml.count '\n' = (if metadata.author.isSome then 4 else 3) ∧
    d.yaml = d.entries.flatMap (fun entry => field entry.1.toList entry.2) ∧
    (∀ entry ∈ d.entries, field entry.1.toList entry.2 = entryText entry ++ ['\n'] ∧
      '\n' ∉ entryText entry ∧ style entry.2 ≠ .literal) ∧
    Text.splitOn '\n' d.yaml = d.entries.map entryText ++ [[]] ∧
    d.entries.map Prod.fst =
      (if metadata.author.isSome then ["name", "version", "main", "author"]
        else ["name", "version", "main"]) ∧
    (∃ text, (d.entries.map entryText)[0]? = some ("name: ".toList ++ text) ∧
      (d.entries.map entryText)[2]? = some ("main: ".toList ++ text)) ∧
    (∀ before c after, c = '\u2028' ∨ c = '\u2029' → d.yaml = before ++ c :: after →
      InQuotes d before c after) := by
  intro metadata d
  have values : ∀ entry ∈ d.entries, Text.Unbroken entry.2 := ofMetadata_unbroken source
  have feedless : ∀ entry ∈ d.entries, '\n' ∉ entry.2 := fun entry h => (values entry h).2
  have texts : ∀ line ∈ d.entries.map entryText, Text.Unbroken line := by
    intro line h
    obtain ⟨entry, listed, rfl⟩ := List.mem_map.mp h
    exact entryText_unbroken listed (values entry listed)
  have keys : d.entries.map Prod.fst = if metadata.author.isSome then _ else _ := map_fst_entries d
  refine ⟨?_, yaml_eq_flatMap d, ?_, ?_, keys, ⟨write metadata.name, ?_, ?_⟩, ?_⟩
  · rw [yaml_eq_unlines feedless, Text.count_unlines fun line h => (texts line h).2,
      List.length_map, ← List.length_map (f := Prod.fst), keys]
    split <;> rfl
  · intro entry listed
    exact ⟨field_eq_entryText (feedless entry listed),
      (entryText_unbroken listed (values entry listed)).2, style_ne_literal (feedless entry listed)⟩
  · rw [yaml_eq_unlines feedless, Text.splitOn_unlines, Text.flatMap_splitOn texts]
  · simp [d, entries_ofMetadata, entryText]
  · simp [d, entries_ofMetadata, entryText]
  · rintro before c after (rfl | rfl) place
    · exact inQuotes_of_isBreak feedless rfl (by decide) place
    · exact inQuotes_of_isBreak feedless rfl (by decide) place

/-- A name that goes on behind a separator with what looks like a key, and an author that looks like
an item of a list. -/
theorem headers_add_no_entry_behind_separator :
    let source := "name: a\u2028b: c\r\nauthor: - x".toList
    let d := ofMetadata (Script.parse source).metadata
    let later := "version: '1.0'\nmain: 'a\u2028  b: c'\nauthor: '- x'\n".toList
    d.yaml = "name: 'a".toList ++ '\u2028' :: ("  b: c'\n".toList ++ later) ∧
    InQuotes d "name: 'a".toList '\u2028' ("  b: c'\n".toList ++ later) ∧
    d.yaml.count '\n' = 4 := by
  intro source d later
  have text : d.yaml = "name: 'a".toList ++ '\u2028' :: ("  b: c'\n".toList ++ later) := by
    decide +kernel
  obtain ⟨count, -, -, -, -, -, quoted⟩ := headers_add_no_entry source
  exact ⟨text, quoted _ _ _ (.inl rfl) text, count.trans (by decide +kernel)⟩

end Plugin.Descriptor

end VoidScript
