import Mathlib.Data.List.Infix
import VoidScript.Proofs.Script

/-!
Headers that are written back. A value stands in quotes behind its key, so blanks at its ends are
kept; what cannot be written is a value that holds its own key, starts or ends with a quote, or goes
on over the end of a line. No script has metadata of that kind.

* `Key.value?_line`: a value that a header can hold is read back from its line;
* `Key.holds_of_value?`: what is read from a line can be held by one;
* `headers_round_trip`: hence metadata with such values is read back from its headers, and all
  metadata of scripts has such values.
-/

namespace VoidScript.Metadata

/-- How a header is written. -/
def Key.line (key : Key) (value : Text) : Text :=
  key.text ++ " \"".toList ++ value ++ "\"".toList

/-- The lines that give the metadata: one for its name, then one each for its version and its author
if it has them. -/
def headers (metadata : Metadata) : List Text :=
  [Key.name, .version, .author].filterMap fun key => (metadata.field key).map key.line

/-- A value that a header for the key can hold. -/
structure Key.Holds (key : Key) (value : Text) : Prop where
  unbroken : Text.Unbroken value
  keyless : ¬ key.text <:+: value
  opening : value.head? ≠ some '\x22'
  closing : value.getLast? ≠ some '\x22'

instance (key : Key) (value : Text) : Decidable (key.Holds value) :=
  decidable_of_iff
    (Text.Unbroken value ∧ ¬ key.text <:+: value ∧ value.head? ≠ some '\x22' ∧
      value.getLast? ≠ some '\x22')
    ⟨fun ⟨h₁, h₂, h₃, h₄⟩ => ⟨h₁, h₂, h₃, h₄⟩, fun h => ⟨h.1, h.2, h.3, h.4⟩⟩

/-- Every value that is present can be held by a header. -/
def Writable (metadata : Metadata) : Prop :=
  ∀ key value, metadata.field key = some value → key.Holds value

/-! ## One header -/

theorem Key.text_unquoted (key : Key) : ' ' ∉ key.text ∧ '\x22' ∉ key.text := by
  cases key <;> decide

/-- The key does not come up again: neither a blank nor a quote is a part of it. -/
theorem Key.not_isInfix_quoted {key : Key} {value : Text} (h : ¬ key.text <:+: value) :
    ¬ key.text <:+: ' ' :: '\x22' :: (value ++ ['\x22']) := by
  intro inside
  obtain ⟨blank, quote⟩ := key.text_unquoted
  have behind := Text.isInfix_of_isInfix_cons key.text_ne_nil blank inside
  have inner := Text.isInfix_of_isInfix_cons key.text_ne_nil quote behind
  exact h (Text.isInfix_of_isInfix_concat key.text_ne_nil quote inner)

/-- The quotes keep the blanks of the value from being trimmed. -/
theorem trim_quoted (value : Text) :
    Text.trim (' ' :: '\x22' :: (value ++ ['\x22'])) = '\x22' :: (value ++ ['\x22']) := by
  have blank : Text.Blank [' '] := by decide
  have nothing : Text.Blank [] := by decide
  have front : Text.trim (' ' :: '\x22' :: (value ++ ['\x22'])) =
      Text.trim ('\x22' :: (value ++ ['\x22'])) := by
    simpa using Text.trim_padded blank nothing ('\x22' :: (value ++ ['\x22']))
  rw [front]
  exact Text.trim_of_ends '\x22' '\x22' (by decide) (by decide) rfl
    (by rw [← List.cons_append, List.getLast?_concat])

theorem strip_quoted {value : Text} (opening : value.head? ≠ some '\x22')
    (closing : value.getLast? ≠ some '\x22') :
    Text.strip (· == '\x22') ('\x22' :: (value ++ ['\x22'])) = value := by
  have quote : ∀ c ∈ ['\x22'], (c == '\x22') = true := by simp
  have padded := Text.strip_padded quote quote value
  rw [List.singleton_append] at padded
  rw [padded]
  apply Text.strip_eq_self
  · intro c hc
    have other : c ≠ '\x22' := fun same => opening (by rw [hc, same])
    simpa using other
  · intro c hc
    have other : c ≠ '\x22' := fun same => closing (by rw [hc, same])
    simpa using other

theorem Key.value?_line {key : Key} {value : Text} (h : key.Holds value) :
    key.value? (key.line value) = some value := by
  have split : key.line value = key.text ++ (' ' :: '\x22' :: (value ++ ['\x22'])) := by
    simp [Key.line]
  have behind : Text.after? key.text (key.line value) =
      some (' ' :: '\x22' :: (value ++ ['\x22'])) :=
    Text.after?_eq_some_iff.mpr split
  rw [Key.value?, behind, Option.map_some, Text.upTo_eq_self (Key.not_isInfix_quoted h.keyless),
    trim_quoted, strip_quoted h.opening h.closing]

theorem Key.line_unbroken {key : Key} {value : Text} (h : Text.Unbroken value) :
    Text.Unbroken (key.line value) := by
  have quotes : Text.Unbroken " \"".toList ∧ Text.Unbroken "\"".toList := by decide
  have text : Text.Unbroken key.text := by cases key <;> decide
  simp only [Key.line, Text.unbroken_append]
  exact ⟨⟨⟨text, quotes.1⟩, h⟩, quotes.2⟩

theorem Key.holds_of_value? {key : Key} {line value : Text} (hl : Text.Unbroken line)
    (h : key.value? line = some value) : key.Holds value := by
  have unbroken := hl.of_isInfix (Key.value?_isInfix h)
  obtain ⟨after, -, rfl⟩ := Option.map_eq_some_iff.mp h
  refine ⟨unbroken, ?_, ?_, ?_⟩
  · intro inside
    have part := (Text.strip_isInfix (· == '\x22') _).trans
      (Text.trim_isInfix (Text.upTo key.text after))
    exact Text.not_isInfix_upTo key.text_ne_nil after (inside.trans part)
  · intro quote
    cases Text.strip_head quote
  · intro quote
    cases Text.strip_last quote

/-! ## All headers -/

/-- The header for one key, if there is one, as it is read for another. -/
theorem value?_header {metadata : Metadata} (h : metadata.Writable) (key other : Key) :
    ((metadata.field key).map key.line).bind other.value? =
      if key = other then metadata.field other else none := by
  cases present : metadata.field key with
  | none =>
    by_cases same : key = other
    · subst same
      simp [present]
    · simp [same]
  | some value =>
    have own := Key.value?_line (h key value present)
    by_cases same : key = other
    · subst same
      simp [own, present]
    · have foreign := Key.value?_eq_none own (Ne.symm same)
      simp [same, foreign]

theorem filterMap_headers {metadata : Metadata} (h : metadata.Writable) (key : Key) :
    metadata.headers.filterMap key.value? = (metadata.field key).toList := by
  rw [headers, List.filterMap_filterMap]
  simp only [value?_header h]
  cases key <;> cases metadata.field _ <;> simp

/-- There is always a name, and nothing else is set by default. -/
theorem or_unnamed_field (metadata : Metadata) (key : Key) :
    (metadata.field key).or (unnamed.field key) = metadata.field key := by
  cases key with
  | name => rfl
  | version | author => exact Option.or_none

theorem ofLines_headers {metadata : Metadata} (h : metadata.Writable) :
    ofLines metadata.headers = metadata := by
  apply ext_field
  intro key
  have last : (metadata.field key).toList.getLast? = metadata.field key := by
    cases metadata.field key <;> rfl
  rw [ofLines_field, filterMap_headers h, last, or_unnamed_field]

theorem headers_unbroken {metadata : Metadata} (h : metadata.Writable) :
    ∀ line ∈ metadata.headers, Text.Unbroken line := by
  intro line hl
  obtain ⟨key, -, hk⟩ := List.mem_filterMap.mp hl
  obtain ⟨value, present, rfl⟩ := Option.map_eq_some_iff.mp hk
  exact Key.line_unbroken (h key value present).unbroken

theorem ofLines_writable {lines : List Text} (h : ∀ line ∈ lines, Text.Unbroken line) :
    (ofLines lines).Writable := by
  intro key value present
  rw [ofLines_field] at present
  rcases Option.or_eq_some_iff.mp present with last | ⟨-, default⟩
  · obtain ⟨line, hl, read⟩ := List.mem_filterMap.mp (List.mem_of_getLast? last)
    exact Key.holds_of_value? (h line hl) read
  · cases key with
    | name =>
      obtain rfl := Option.some.inj default
      decide +kernel
    | version | author => cases default

/-- Metadata whose values can be held by headers is read back from its headers, as lines and as a
script, with all blanks at the ends of its values. The metadata of every script is of this kind, so
writing it and reading it again changes nothing. -/
theorem headers_round_trip :
    (∀ metadata : Metadata, metadata.Writable →
      ofLines metadata.headers = metadata ∧
      (Script.parse (Text.unlines metadata.headers)).metadata = metadata) ∧
    (∀ source : Text, (Script.parse source).metadata.Writable ∧
      ofLines (Script.parse source).metadata.headers = (Script.parse source).metadata) := by
  constructor
  · intro metadata h
    refine ⟨ofLines_headers h, ?_⟩
    rw [Script.parse_unlines (headers_unbroken h), ofLines_headers h]
  · intro source
    have writable : (Script.parse source).metadata.Writable :=
      ofLines_writable fun _ => Source.lines_unbroken
    exact ⟨writable, ofLines_headers writable⟩

/-- Blanks at both ends of the name, a version that is empty, and an author with a quote and the key
of another header inside. -/
theorem headers_round_trip_with_blanks :
    let metadata : Metadata := ⟨" \t A ".toList, some [], some "x\"name: y".toList⟩
    metadata.Writable ∧
    metadata.headers =
      ["name: \" \t A \"", "version: \"\"", "author: \"x\"name: y\""].map String.toList ∧
    ofLines metadata.headers = metadata := by
  intro metadata
  have name : Key.name.Holds " \t A ".toList := by decide +kernel
  have version : Key.version.Holds [] := by decide +kernel
  have author : Key.author.Holds "x\"name: y".toList := by decide +kernel
  have writable : metadata.Writable := by
    intro key value present
    cases key with
    | name => cases present; exact name
    | version => cases present; exact version
    | author => cases present; exact author
  refine ⟨writable, ?_, (headers_round_trip.1 metadata writable).1⟩
  decide +kernel

end VoidScript.Metadata
