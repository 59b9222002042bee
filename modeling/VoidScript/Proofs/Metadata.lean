import VoidScript.Metadata
import VoidScript.Proofs.Text.Blank

/-!
Metadata read from header lines.

* `header?_eq_findSome?`: the marker above the headers needs no test of its own;
* `header?_eq_some_iff`: a line is a header of at most one key;
* `foldl_record_field`: a field is the value of the last header for its key;
* `ofLines_append_field`: so of two groups of lines the second decides, if it has a header;
* `ofLines_field_isInfix`: a value that is not a default is a part of one line;
* `Key.value?_append`, `Key.value?_indented`: blanks behind a header do not matter, and a line with
  blanks before it is none.
-/

namespace VoidScript.Metadata

/-- What the metadata holds for a key. There is always a name. -/
def field (metadata : Metadata) : Key → Option Text
  | .name => some metadata.name
  | .version => metadata.version
  | .author => metadata.author

/-- Some line starts with the key. -/
def Key.heads (key : Key) (lines : List Text) : Bool := lines.any key.text.isPrefixOf

theorem Key.value?_isSome (key : Key) (line : Text) :
    (key.value? line).isSome = key.text.isPrefixOf line := by
  rw [Key.value?, Option.isSome_map, Bool.eq_iff_iff, Option.isSome_iff_exists,
    List.isPrefixOf_iff_prefix]
  constructor
  · rintro ⟨after, h⟩; exact ⟨after, (Text.after?_eq_some_iff.mp h).symm⟩
  · rintro ⟨after, h⟩; exact ⟨after, Text.after?_eq_some_iff.mpr h.symm⟩

theorem Key.value?_eq_none_iff {key : Key} {line : Text} :
    key.value? line = none ↔ ¬ key.text <+: line := by
  rw [← Option.not_isSome_iff_eq_none, Key.value?_isSome, List.isPrefixOf_iff_prefix]

/-- The keys start with different letters. -/
theorem Key.value?_eq_none {key other : Key} {line value : Text} (h : key.value? line = some value)
    (hne : other ≠ key) : other.value? line = none := by
  obtain ⟨after, ha, -⟩ := Option.map_eq_some_iff.mp h
  obtain rfl := Text.after?_eq_some_iff.mp ha
  cases key <;> cases other <;> first | exact absurd rfl hne | rfl

/-- No key starts as the marker does. -/
theorem Key.value?_of_marker (key : Key) {line : Text} (h : marker <+: line) :
    key.value? line = none := by
  obtain ⟨rest, rfl⟩ := h
  cases key <;> rfl

/-- So a line with the marker would be no header without a test of its own. -/
theorem header?_eq_findSome? (line : Text) :
    header? line =
      [Key.name, .version, .author].findSome? fun key => (key.value? line).map (key, ·) := by
  unfold header?
  split
  · rename_i marked
    symm
    rw [List.findSome?_eq_none_iff]
    intro key _
    rw [key.value?_of_marker (List.isPrefixOf_iff_prefix.mp marked), Option.map_none]
  · rfl

theorem header?_eq_some_iff {line value : Text} {key : Key} :
    header? line = some (key, value) ↔ key.value? line = some value := by
  rw [header?_eq_findSome?]
  constructor
  · intro h
    obtain ⟨k, -, hk⟩ := List.exists_of_findSome?_eq_some h
    obtain ⟨v, hv, he⟩ := Option.map_eq_some_iff.mp hk
    obtain ⟨rfl, rfl⟩ := Prod.mk.inj he
    exact hv
  · intro h
    have others (other : Key) (hne : other ≠ key) := Key.value?_eq_none h hne
    cases key with
    | name => simp [h]
    | version => simp [h, others .name (by simp)]
    | author => simp [h, others .name (by simp), others .version (by simp)]

theorem header?_eq_none_iff {line : Text} :
    header? line = none ↔ ∀ key : Key, key.value? line = none := by
  simp only [header?_eq_findSome?, List.findSome?_eq_none_iff, Option.map_eq_none_iff]
  exact ⟨fun h key => h key (by cases key <;> simp), fun h key _ => h key⟩

theorem set_field (metadata : Metadata) (key other : Key) (value : Text) :
    (metadata.set key value).field other =
      if other = key then some value else metadata.field other := by
  cases key <;> cases other <;> rfl

theorem record_field (metadata : Metadata) (line : Text) (key : Key) :
    (metadata.record line).field key = (key.value? line).or (metadata.field key) := by
  unfold record
  split
  · rename_i k v h
    have hk := header?_eq_some_iff.mp h
    rw [set_field]
    by_cases he : key = k
    · subst he; simp [hk]
    · simp [he, Key.value?_eq_none hk he]
  · rename_i h
    simp [header?_eq_none_iff.mp h key]

/-- The last header for a key wins. -/
theorem foldl_record_field (metadata : Metadata) (lines : List Text) (key : Key) :
    (lines.foldl record metadata).field key =
      (lines.filterMap key.value?).getLast?.or (metadata.field key) := by
  induction lines generalizing metadata with
  | nil => rfl
  | cons line lines ih =>
    rw [List.foldl_cons, ih, record_field]
    cases h : key.value? line with
    | none => simp [h]
    | some value =>
      cases hl : (lines.filterMap key.value?).getLast? <;> simp [h, List.getLast?_cons, hl]

theorem ofLines_field (lines : List Text) (key : Key) :
    (ofLines lines).field key = (lines.filterMap key.value?).getLast?.or (unnamed.field key) :=
  foldl_record_field unnamed lines key

theorem ext_field {m n : Metadata} (h : ∀ key, m.field key = n.field key) : m = n := by
  have name : m.name = n.name := Option.some.inj (h .name)
  have version : m.version = n.version := h .version
  have author : m.author = n.author := h .author
  cases m
  cases n
  simp_all

/-- Lines with the same headers give the same metadata. -/
theorem ofLines_congr {before after : List Text}
    (h : ∀ key : Key, before.filterMap key.value? = after.filterMap key.value?) :
    ofLines before = ofLines after :=
  ext_field fun key => by rw [ofLines_field, ofLines_field, h key]

theorem Key.heads_eq_false_iff {key : Key} {lines : List Text} :
    key.heads lines = false ↔ lines.filterMap key.value? = [] := by
  simp only [Key.heads, List.any_eq_false, List.filterMap_eq_nil_iff, ← Key.value?_isSome,
    Bool.not_eq_true, Option.isSome_eq_false_iff, Option.isNone_iff_eq_none]

theorem ofLines_append_field (before after : List Text) (key : Key) :
    (ofLines (before ++ after)).field key =
      if key.heads after then (ofLines after).field key else (ofLines before).field key := by
  rw [ofLines_field, ofLines_field, ofLines_field, List.filterMap_append, List.getLast?_append]
  cases h : key.heads after with
  | true =>
    have hne : after.filterMap key.value? ≠ [] := by
      intro hn
      rw [Key.heads_eq_false_iff.mpr hn] at h
      cases h
    rw [List.getLast?_eq_some_getLast hne, Option.some_or, Option.some_or, if_pos rfl]
  | false => simp [Key.heads_eq_false_iff.mp h]

theorem Key.value?_isInfix {key : Key} {line value : Text} (h : key.value? line = some value) :
    value <:+: line := by
  obtain ⟨after, ha, rfl⟩ := Option.map_eq_some_iff.mp h
  obtain rfl := Text.after?_eq_some_iff.mp ha
  have trimmed : Text.trim (Text.upTo key.text after) <:+: after :=
    (Text.trim_isInfix _).trans (Text.upTo_isPrefix key.text after).isInfix
  have followed : after <:+: key.text ++ after := (List.suffix_append key.text after).isInfix
  exact (Text.strip_isInfix _ _).trans (trimmed.trans followed)

theorem ofLines_field_isInfix {lines : List Text} {key : Key} {value : Text}
    (h : (ofLines lines).field key = some value) :
    unnamed.field key = some value ∨ ∃ line ∈ lines, value <:+: line := by
  rw [ofLines_field] at h
  rcases Option.or_eq_some_iff.mp h with h | ⟨-, h⟩
  · obtain ⟨line, hl, hv⟩ := List.mem_filterMap.mp (List.mem_of_getLast? h)
    exact Or.inr ⟨line, hl, Key.value?_isInfix hv⟩
  · exact Or.inl h

/-! ## Blanks around a header -/

theorem Key.text_solid (key : Key) : Text.Solid key.text := by
  cases key <;> decide

theorem Key.text_ne_nil (key : Key) : key.text ≠ [] := by
  cases key <;> decide

theorem Key.value?_append (key : Key) {w : Text} (h : Text.Blank w) (line : Text) :
    key.value? (line ++ w) = key.value? line := by
  rw [Key.value?, Text.after?_append key.text_solid h, Option.map_map, Key.value?]
  congr 1
  funext after
  have trimmed : Text.trim (Text.upTo key.text (after ++ w)) =
      Text.trim (Text.upTo key.text after) := by
    rcases Text.upTo_append key.text_solid key.text_ne_nil h after with same | longer
    · rw [same]
    · rw [longer, Text.trim_append h]
  rw [Function.comp_apply, trimmed]

/-- No key starts with a blank. -/
theorem Key.value?_indented (key : Key) {w : Text} (h : Text.Blank w) (hne : w ≠ [])
    (line : Text) : key.value? (w ++ line) = none := by
  obtain ⟨c, w, rfl⟩ := List.exists_cons_of_ne_nil hne
  refine Key.value?_eq_none_iff.mpr ?_
  rintro ⟨rest, hr⟩
  obtain ⟨d, tail, hk⟩ := List.exists_cons_of_ne_nil key.text_ne_nil
  have solid : Text.isBlank d = false := key.text_solid d (by simp [hk])
  obtain rfl : d = c := by
    rw [hk] at hr
    exact (List.cons.inj hr).1
  rw [h d List.mem_cons_self] at solid
  cases solid

end VoidScript.Metadata
