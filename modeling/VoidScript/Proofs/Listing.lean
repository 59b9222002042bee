import VoidScript.Listing
import VoidScript.Proofs.Directive.Written
import VoidScript.Proofs.Text.Quoted

/-!
The listing of a script is faithful: it has one row for each source line and is read back.

* `splitOn_render`: nothing that is listed breaks its row, so the rows are those that were written;
* `ofRow?_directive`: a row gives back the written form of its directive, and with it the directive;
* `metadata_append_inj`: the header rows give back the metadata;
* `listing_faithful`: so two sources with the same listing have the same script. Functions are left
  out: where the name of one ends cannot be told.
-/

namespace VoidScript.Listing

open Directive (ofLine Reading)

/-! ## Reading a row -/

/-- The first word, and what follows the space behind it. -/
def word (s : Text) : Text × Text := Text.breakAt ' ' s

/-- The written form of the directive that a row shows. -/
def written? (row : Text) : Option Text :=
  let (kind, rest) := word row
  if kind = "Loop".toList then some ("loop".toList ++ rest ++ ":".toList)
  else if kind = "If".toList then some ("if ".toList ++ rest ++ ":".toList)
  else if kind = "Elif".toList then some ("elif ".toList ++ rest ++ ":".toList)
  else if kind = "Else".toList then some "else:".toList
  else if kind = "EventHook".toList then
    some ("def ".toList ++ (word rest).1 ++ (word rest).2 ++ ":".toList)
  else if kind = "CollectionLiteral".toList then some ("x = [".toList ++ rest ++ "]".toList)
  else if kind = "Broadcast".toList then some ("print(".toList ++ rest ++ ")".toList)
  else if kind = "Comment".toList ∨ kind = "Passthrough".toList then Text.Quoted.decode? rest
  else none

def isFunction : Directive → Bool
  | .function .. => true
  | _ => false

def families : List Family :=
  [.function, .loop, .branch, .elseIf, .event, .collection, .broadcast]

/-- The directive that a row shows. A dropped line has no written form. -/
def ofRow? (row : Text) : Option Directive :=
  if (word row).1 = "Dropped".toList then
    (families.find? fun family => directive (.dropped family) == row).map .dropped
  else (written? row).map ofLine

theorem written?_event {name : Text} (h : ' ' ∉ name) (param : Text) :
    written? (directive (.event name param)) = (Directive.event name param).written? := by
  have single : ' ' ∉ "on_".toList ++ name := by simp [h]
  have ending := Text.breakAt_append single ("(".toList ++ param ++ ")".toList)
  have shown : written? (directive (.event name param)) =
    some ("def ".toList ++ (word ("on_".toList ++ name ++ " (".toList ++ param ++ ")".toList)).1
      ++ (word ("on_".toList ++ name ++ " (".toList ++ param ++ ")".toList)).2 ++ ":".toList) := rfl
  have spaced : "on_".toList ++ name ++ " (".toList ++ param ++ ")".toList =
    "on_".toList ++ name ++ ' ' :: ("(".toList ++ param ++ ")".toList) := by simp
  rw [shown, spaced, word, ending]
  simp [Directive.written?]

/-- Except for the name of an event, a row only has to be put into other words. -/
theorem written?_directive {line : Text} {d : Directive} (reading : Reading line d)
    (named : isFunction d = false) (kept : d.isDropped = false) :
    (word (directive d)).1 ≠ "Dropped".toList ∧ written? (directive d) = d.written? := by
  cases reading with
  | function => cases named
  | dropped => cases kept
  | @loop label =>
    have shown : written? (directive (.loop label)) =
      some ("loop".toList ++ ("(".toList ++ label ++ ")".toList) ++ ":".toList) := rfl
    exact ⟨by rintro ⟨⟩, by simp [shown, Directive.written?]⟩
  | @branch left right =>
    have shown : written? (directive (.branch left right)) =
      some ("if ".toList ++ ("[".toList ++ left ++ "] = [".toList ++ right ++ "]".toList)
        ++ ":".toList) := rfl
    exact ⟨by rintro ⟨⟩, by simp [shown, Directive.written?]⟩
  | @elseIf condition =>
    have shown : written? (directive (.elseIf condition)) =
      some ("elif ".toList ++ ("[".toList ++ condition ++ "]".toList) ++ ":".toList) := rfl
    exact ⟨by rintro ⟨⟩, by simp [shown, Directive.written?]⟩
  | @event inner name param h he =>
    obtain ⟨param', rest, hd, -⟩ := Directive.eventAt?_eq_some he
    obtain ⟨rfl, rfl⟩ := Directive.event.inj hd
    have blank : Text.isWord ' ' = false := by decide +kernel
    have single : ' ' ∉ inner.takeWhile Text.isWord := fun hm =>
      Bool.eq_false_iff.mp blank (List.mem_takeWhile_imp hm)
    exact ⟨by rintro ⟨⟩, written?_event single param⟩
  | otherwise | collection | broadcast => exact ⟨by rintro ⟨⟩, rfl⟩
  | comment | passthrough => exact ⟨by rintro ⟨⟩, Text.Quoted.decode?_encode line⟩

theorem ofRow?_dropped (family : Family) :
    ofRow? (directive (.dropped family)) = some (.dropped family) := by
  cases family <;> rfl

theorem ofRow?_directive {source line : Text} (hl : line ∈ Source.lines source)
    (named : isFunction (Script.meaning line) = false) :
    ofRow? (directive (Script.meaning line)) = some (Script.meaning line) := by
  have reading : Reading (Text.trim line) (Script.meaning line) := Directive.ofLine_reading _
  cases kept : (Script.meaning line).isDropped with
  | true =>
    obtain ⟨family, hd⟩ : ∃ family, Script.meaning line = .dropped family := by
      generalize Script.meaning line = d at kept
      cases d <;> simp_all [Directive.isDropped]
    rw [hd]
    exact ofRow?_dropped family
  | false =>
    obtain ⟨kind, shown⟩ := written?_directive reading named kept
    have unbroken := (Source.lines_unbroken hl).of_isInfix (Text.trim_isInfix line)
    obtain ⟨text, hw⟩ : ∃ text, (Script.meaning line).written? = some text := by
      rw [← Option.ne_none_iff_exists', ne_eq, Directive.written?_eq_none_iff, kept]
      simp
    rw [ofRow?, if_neg kind, shown, hw, Option.map_some]
    exact congrArg some (Directive.ofLine_written unbroken.2 hw)

/-! ## The rows of a listing -/

theorem directive_unbroken {d : Directive}
    (captures : ∀ capture ∈ d.captures, Text.Unbroken capture) : Text.Unbroken (directive d) := by
  cases d with
  | otherwise => decide
  | collection kind => cases kind <;> decide
  | dropped family => cases family <;> decide
  | comment text | passthrough text =>
    unfold directive
    simp [Text.Quoted.encode_unbroken]
  | _ =>
    unfold directive
    simpa [Directive.captures, and_comm] using captures

theorem decimal_unbroken (n : Nat) : Text.Unbroken (Text.decimal n) :=
  Text.Quoted.toDigits_unbroken (by decide) (by decide) n

theorem padStart_unbroken {width : Nat} {s : Text} (h : Text.Unbroken s) :
    Text.Unbroken (Text.padStart width s) := by
  have spaces : Text.Unbroken (List.replicate (width - s.length) ' ') := by
    simp [Text.Unbroken]
  simp [Text.padStart, spaces, h]

theorem line_unbroken {source : Text} {line : Line} (h : line ∈ (Script.parse source).lines) :
    Text.Unbroken (Listing.line line) := by
  have listed : line.directive ∈ (Script.parse source).directives := List.mem_map_of_mem h
  rw [Script.parse_directives] at listed
  obtain ⟨text, ht, meant⟩ := List.mem_map.mp listed
  have shown : Text.Unbroken (directive line.directive) := by
    rw [← meant]
    exact directive_unbroken (Script.meaning_captures ht)
  unfold Listing.line
  simp [padStart_unbroken (decimal_unbroken line.number), shown]

theorem metadata_unbroken (source : Text) :
    ∀ row ∈ metadata (Script.parse source).metadata, Text.Unbroken row := by
  have value (key : Metadata.Key) {text : Text}
      (h : (Script.parse source).metadata.field key = some text) : Text.Unbroken text :=
    Script.parse_field_unbroken h
  intro row hr
  simp only [metadata, optional, List.mem_append, List.mem_singleton, List.mem_map,
    Option.mem_toList] at hr
  rcases hr with (rfl | ⟨text, ht, rfl⟩) | ⟨text, ht, rfl⟩
  · simp [value .name rfl]
  · simp [value .version ht]
  · simp [value .author ht]

theorem splitOn_render (source : Text) :
    Text.splitOn '\n' (render (Script.parse source)) =
      ["Script:".toList, "  Metadata:".toList] ++ metadata (Script.parse source).metadata
        ++ ["  Lines:".toList] ++ (Script.parse source).lines.map line ++ [[]] := by
  rw [render, Text.splitOn_unlines, Text.flatMap_splitOn]
  intro row hr
  simp only [List.mem_append, List.mem_map] at hr
  rcases hr with ((hr | hr) | hr) | ⟨line, hl, rfl⟩
  · revert row; decide
  · exact metadata_unbroken source row hr
  · revert row; decide
  · exact line_unbroken hl

theorem line_getElem? (source : Text) (i : Nat) :
    ((Script.parse source).lines.map line)[i]? =
      (Script.parse source).directives[i]?.map fun d =>
        "    ".toList ++ Text.padStart 4 (Text.decimal (i + 1)) ++ ": ".toList ++ directive d := by
  rw [Script.parse_directives, Script.parse_lines, List.getElem?_map, Script.number_getElem?,
    Option.map_map, Nat.add_comm 1 i]
  rfl

theorem length_metadata (m : Metadata) :
    (metadata m).length =
      1 + (if m.version.isSome then 1 else 0) + (if m.author.isSome then 1 else 0) := by
  cases hv : m.version <;> cases ha : m.author <;> simp [metadata, optional, hv, ha]

/-! ## What a listing determines -/

/-- An optional row is told from the row that follows it by its key. -/
theorem optional_append_inj {key : String} {v w : Option Text} {rows others : List Text}
    (hr : ∀ text, rows.head? ≠ some ("    ".toList ++ key.toList ++ ": ".toList ++ text))
    (ho : ∀ text, others.head? ≠ some ("    ".toList ++ key.toList ++ ": ".toList ++ text))
    (h : optional key v ++ rows = optional key w ++ others) : v = w ∧ rows = others := by
  cases v with
  | none =>
    cases w with
    | none => exact ⟨rfl, h⟩
    | some text => exact absurd (congrArg List.head? h) (hr text)
  | some text =>
    cases w with
    | none => exact absurd (congrArg List.head? h).symm (ho text)
    | some text' =>
      obtain ⟨first, rest⟩ := List.cons.inj h
      exact ⟨congrArg some (List.append_cancel_left first), rest⟩

theorem metadata_append_inj {m n : Metadata} {rows others : List Text}
    (h : metadata m ++ "  Lines:".toList :: rows = metadata n ++ "  Lines:".toList :: others) :
    m = n ∧ rows = others := by
  simp only [metadata, List.append_assoc, List.singleton_append] at h
  obtain ⟨name, h⟩ := List.cons.inj h
  have version_row (author : Option Text) (rest : List Text) (text : Text) :
      (optional "author" author ++ "  Lines:".toList :: rest).head? ≠
        some ("    ".toList ++ "version".toList ++ ": ".toList ++ text) := by
    cases author <;> simp [optional]
  obtain ⟨version, h⟩ := optional_append_inj (version_row _ _) (version_row _ _) h
  obtain ⟨author, h⟩ := optional_append_inj (by simp) (by simp) h
  have named : m.name = n.name := List.append_cancel_left name
  obtain ⟨-, h⟩ := List.cons.inj h
  refine ⟨?_, h⟩
  cases m
  cases n
  simp_all

theorem map_line_inj {ds es : List Directive} {first : Nat}
    (legible : ∀ d ∈ ds, ofRow? (directive d) = some d)
    (legible' : ∀ e ∈ es, ofRow? (directive e) = some e)
    (h : (Script.number first ds).map line = (Script.number first es).map line) : ds = es := by
  induction ds generalizing first es with
  | nil =>
    cases es with
    | nil => rfl
    | cons e es => cases h
  | cons d ds ih =>
    cases es with
    | nil => cases h
    | cons e es =>
      obtain ⟨hd, hds⟩ := List.forall_mem_cons.mp legible
      obtain ⟨he, hes⟩ := List.forall_mem_cons.mp legible'
      obtain ⟨row, rest⟩ := List.cons.inj h
      have shown : directive d = directive e := List.append_cancel_left row
      have same : d = e := Option.some.inj (by rw [← hd, shown, he])
      rw [same, ih hds hes rest]

theorem legible_of_parse {source : Text}
    (named : ∀ d ∈ (Script.parse source).directives, isFunction d = false) :
    ∀ d ∈ (Script.parse source).directives, ofRow? (directive d) = some d := by
  intro d hd
  have hf := named d hd
  rw [Script.parse_directives] at hd
  obtain ⟨line, hl, rfl⟩ := List.mem_map.mp hd
  exact ofRow?_directive hl hf

theorem parse_eq_of_render_eq {s t : Text}
    (hs : ∀ d ∈ (Script.parse s).directives, isFunction d = false)
    (ht : ∀ d ∈ (Script.parse t).directives, isFunction d = false)
    (h : render (Script.parse s) = render (Script.parse t)) : Script.parse s = Script.parse t := by
  have rows := congrArg (Text.splitOn '\n') h
  rw [splitOn_render, splitOn_render] at rows
  simp only [List.append_assoc, List.cons_append, List.nil_append, List.cons.injEq,
    true_and] at rows
  obtain ⟨header, rows⟩ := metadata_append_inj rows
  have listed := List.append_cancel_right rows
  have hd := legible_of_parse hs
  have he := legible_of_parse ht
  rw [Script.parse_directives] at hd he
  have meant := map_line_inj hd he listed
  have lines : (Script.parse s).lines = (Script.parse t).lines := by
    rw [Script.parse_lines, Script.parse_lines, meant]
  generalize Script.parse s = a at header lines
  generalize Script.parse t = b at header lines
  cases a
  cases b
  simp_all

/-- The row of a function can be read in two ways. -/
theorem exists_ambiguous_functions : ∃ s t : Text,
    render (Script.parse s) = render (Script.parse t) ∧ Script.parse s ≠ Script.parse t :=
  ⟨"func [z](x [y):".toList, "func [y [z](x):".toList, by decide +kernel, by decide +kernel⟩

/-- A listing has a row for every source line, in order and numbered, behind the rows of its
metadata; and without functions it determines the script. -/
theorem listing_faithful (s : Text) :
    let script := Script.parse s
    let rows := script.lines.map line
    Text.splitOn '\n' (render script) =
      ["Script:".toList, "  Metadata:".toList] ++ metadata script.metadata
        ++ ["  Lines:".toList] ++ rows ++ [[]] ∧
    (["Script:".toList, "  Metadata:".toList] ++ metadata script.metadata
        ++ ["  Lines:".toList] ++ rows).length =
      4 + (if script.metadata.version.isSome then 1 else 0)
        + (if script.metadata.author.isSome then 1 else 0) + (Source.lines s).length ∧
    script.directives = (Source.lines s).map Script.meaning ∧
    (∀ i, rows[i]? = script.directives[i]?.map fun d =>
      "    ".toList ++ Text.padStart 4 (Text.decimal (i + 1)) ++ ": ".toList ++ directive d) ∧
    (∀ t, (∀ d ∈ script.directives, isFunction d = false) →
      (∀ d ∈ (Script.parse t).directives, isFunction d = false) →
      render script = render (Script.parse t) → script = Script.parse t) ∧
    ∃ t u, render (Script.parse t) = render (Script.parse u) ∧
      Script.parse t ≠ Script.parse u := by
  refine ⟨splitOn_render s, ?_, Script.parse_directives s, line_getElem? s,
    fun t hs ht => parse_eq_of_render_eq hs ht, exists_ambiguous_functions⟩
  have rows : (Script.parse s).lines.length = (Source.lines s).length := by
    have := congrArg List.length (Script.parse_directives s)
    simpa [Script.directives] using this
  simp only [List.length_append, List.length_cons, List.length_nil, List.length_map,
    length_metadata, rows]
  omega

/-- Line ends do not show in a listing. -/
theorem listing_faithful_across_line_ends :
    let s := "loop(i):\r\nif [a]] = [b]:".toList
    let t := "loop(i):\nif [a]] = [b]:\n".toList
    (∀ d ∈ (Script.parse s).directives, isFunction d = false) ∧
    (∀ d ∈ (Script.parse t).directives, isFunction d = false) ∧
    render (Script.parse s) = render (Script.parse t) ∧ Script.parse s = Script.parse t := by
  intro s t
  have hs : ∀ d ∈ (Script.parse s).directives, isFunction d = false := by decide +kernel
  have ht : ∀ d ∈ (Script.parse t).directives, isFunction d = false := by decide +kernel
  have same : render (Script.parse s) = render (Script.parse t) := by decide +kernel
  exact ⟨hs, ht, same, (listing_faithful s).2.2.2.2.1 t hs ht same⟩

end VoidScript.Listing
