import VoidScript.Proofs.Script
import VoidScript.Proofs.Text.Case

/-!
The lines of a generated class. Nothing that a script contributes holds a line break, so every
directive has as many lines as its kind says and no more.

* `splitOn_block`: a block is its head, its body and a closing line;
* `fragment?_shape`: the fragment of a directive is such a block or a single line;
* `translate_layout`: the lines of the whole class.
-/

namespace VoidScript.Plugin

/-- How many lines stand for a directive of its kind. -/
def height : Directive → Nat
  | .function .. | .loop _ => 4
  | .branch .. | .elseIf _ | .otherwise | .event .. | .broadcast _ => 3
  | .collection _ | .comment _ | .passthrough _ => 1
  | .dropped _ => 0

/-- The lines of a directive's fragment, if it has one. -/
def blockLines (d : Directive) : List Text := (fragment? d).toList.flatMap (Text.splitOn '\n')

theorem splitOn_body {front : Text} {body : List Text} (hf : '\n' ∉ front)
    (hb : ∀ line ∈ body, '\n' ∉ line) :
    Text.splitOn '\n'
        (front ++ (body.flatMap (fun line => "\n        ".toList ++ line) ++ "\n    \x7d".toList)) =
      front :: body.map ("        ".toList ++ ·) ++ ["    \x7d".toList] := by
  induction body generalizing front with
  | nil =>
    change Text.splitOn '\n' (front ++ '\n' :: "    \x7d".toList) = [front, "    \x7d".toList]
    rw [Text.splitOn_append_cons, Text.splitOn_of_not_mem hf]
    rfl
  | cons line body ih =>
    obtain ⟨hl, hb⟩ := List.forall_mem_cons.mp hb
    have inner : '\n' ∉ "        ".toList ++ line := by simpa using hl
    have shape : (line :: body).flatMap (fun line => "\n        ".toList ++ line) ++
        "\n    \x7d".toList = '\n' :: ("        ".toList ++ line ++
          (body.flatMap (fun line => "\n        ".toList ++ line) ++ "\n    \x7d".toList)) := by
      simp
    rw [shape, Text.splitOn_append_cons, Text.splitOn_of_not_mem hf, ih inner hb]
    rfl

theorem block_eq (head : Text) (body : List Text) :
    block head body = "    ".toList ++ head ++ " \x7b".toList ++
      (body.flatMap (fun line => "\n        ".toList ++ line) ++ "\n    \x7d".toList) :=
  List.append_assoc _ _ _

theorem splitOn_block {head : Text} {body : List Text} (hh : '\n' ∉ head)
    (hb : ∀ line ∈ body, '\n' ∉ line) :
    Text.splitOn '\n' (block head body) =
      ("    ".toList ++ head ++ " \x7b".toList) :: body.map ("        ".toList ++ ·)
        ++ ["    \x7d".toList] := by
  have front : '\n' ∉ "    ".toList ++ head ++ " \x7b".toList := by simpa using hh
  rw [block_eq, splitOn_body front hb]

/-- What a fragment can look like, and how many lines it has then. -/
inductive Shape : Option Text → Nat → Prop
  | dropped : Shape none 0
  | line {text : Text} (unbroken : Text.Unbroken text) : Shape (some text) 1
  | block {head : Text} {body : List Text} (head_unbroken : Text.Unbroken head)
      (body_unbroken : ∀ line ∈ body, Text.Unbroken line) :
      Shape (some (block head body)) (body.length + 2)

theorem declaration_unbroken (kind : Collection) : Text.Unbroken (declaration kind) := by
  unfold declaration
  split <;> simp

theorem fragment?_shape {d : Directive}
    (captures : ∀ capture ∈ d.captures, Text.Unbroken capture) :
    Shape (fragment? d) (height d) := by
  cases d with
  | function params name =>
    obtain ⟨hp, hn⟩ : Text.Unbroken params ∧ Text.Unbroken name := by
      simpa [Directive.captures] using captures
    exact .block (by simp [hp, hn]) (by simp)
  | loop label => exact .block (by simp) (by simp)
  | branch left right =>
    obtain ⟨hl, hr⟩ : Text.Unbroken left ∧ Text.Unbroken right := by
      simpa [Directive.captures] using captures
    exact .block (by simp [hl, hr]) (by simp)
  | elseIf condition =>
    have hc : Text.Unbroken condition := by simpa [Directive.captures] using captures
    exact .block (by simp [hc]) (by simp)
  | otherwise => exact .block (by simp) (by simp)
  | event name param =>
    obtain ⟨hn, hp⟩ : Text.Unbroken name ∧ Text.Unbroken param := by
      simpa [Directive.captures] using captures
    have hc := Text.Case.capitalize_unbroken hn
    exact .block (by simp [hc, hp]) (by simp)
  | broadcast message =>
    have hm : Text.Unbroken message := by simpa [Directive.captures] using captures
    exact .block (by simp) (by simp [hm])
  | collection kind => exact .line (declaration_unbroken kind)
  | comment text | passthrough text =>
    have ht : Text.Unbroken text := by simpa [Directive.captures] using captures
    exact .line (by simp [ht])
  | dropped family => exact .dropped

theorem Shape.length_lines {fragment : Option Text} {n : Nat} (shape : Shape fragment n) :
    (fragment.toList.flatMap (Text.splitOn '\n')).length = n := by
  cases shape with
  | dropped => rfl
  | line unbroken => simp [Text.splitOn_of_not_mem unbroken.2]
  | block head_unbroken body_unbroken =>
    have body_whole := fun line hl => (body_unbroken line hl).2
    simp [splitOn_block head_unbroken.2 body_whole]

theorem Shape.no_return {text : Text} {n : Nat} (shape : Shape (some text) n) : '\r' ∉ text := by
  cases shape with
  | line unbroken => exact unbroken.1
  | block head_unbroken body_unbroken =>
    have body_whole := fun line hl => (body_unbroken line hl).1
    simpa [block_eq, head_unbroken.1] using body_whole

/-! ## The whole class -/

theorem preamble_unbroken {name : Text} (h : Text.Unbroken name) :
    ∀ line ∈ JavaClass.preamble name, Text.Unbroken line := by
  simp [JavaClass.preamble, h]

theorem parse_name_unbroken (source : Text) :
    Text.Unbroken (Script.parse source).metadata.name := by
  have named : (Script.parse source).metadata.field .name =
    some (Script.parse source).metadata.name := rfl
  exact Script.parse_field_unbroken named

theorem translate_eq_unlines (source : Text) :
    translate source = Text.unlines
      (JavaClass.preamble (Script.parse source).metadata.name ++ fragments source
        ++ ["\x7d".toList]) :=
  rfl

theorem mem_fragments {source text : Text} (h : text ∈ fragments source) :
    ∃ line ∈ Source.lines source, fragment? (Script.meaning line) = some text := by
  rw [fragments_eq] at h
  exact List.mem_filterMap.mp h

theorem translate_no_return (source : Text) : '\r' ∉ translate source := by
  rw [translate_eq_unlines, Text.mem_unlines (by decide)]
  rintro ⟨line, hl, hr⟩
  rcases List.mem_append.mp hl with hl | hl
  · rcases List.mem_append.mp hl with hl | hl
    · exact (preamble_unbroken (parse_name_unbroken source) line hl).1 hr
    · obtain ⟨source_line, hs, hf⟩ := mem_fragments hl
      exact (hf ▸ fragment?_shape (Script.meaning_captures hs)).no_return hr
  · obtain rfl := List.mem_singleton.mp hl
    revert hr
    decide

theorem flatMap_splitOn_fragments (ds : List Directive) :
    (ds.filterMap fragment?).flatMap (Text.splitOn '\n') =
      (ds.filter (fun d => !d.isDropped)).flatMap blockLines := by
  induction ds with
  | nil => rfl
  | cons d ds ih =>
    cases h : fragment? d with
    | none => simp [h, fragment?_eq_none_iff.mp h, ih]
    | some text =>
      have kept : d.isDropped = false := by
        rw [← Bool.not_eq_true, ← fragment?_eq_none_iff, h]
        simp
      simp [h, kept, ih, blockLines]

theorem splitOn_translate (source : Text) :
    Text.splitOn '\n' (translate source) =
      JavaClass.preamble (Script.parse source).metadata.name
        ++ ((Script.parse source).directives.filter (fun d => !d.isDropped)).flatMap blockLines
        ++ ["\x7d".toList, []] := by
  have lifecycle := Text.flatMap_splitOn (preamble_unbroken (parse_name_unbroken source))
  rw [translate_eq_unlines, Text.splitOn_unlines, List.flatMap_append, List.flatMap_append,
    lifecycle, fragments_eq_directives, flatMap_splitOn_fragments, List.append_assoc _ _ [[]]]
  rfl

theorem ofLine_comment (rest : Text) : Directive.ofLine ('#' :: rest) = .comment ('#' :: rest) := by
  rw [Directive.ofLine, Directive.isCollectionLiteral_comment rest]
  rfl

theorem meaning_comment {line : Text}
    (h : Text.trim line = [] ∨ (Text.trim line).head? = some '#') :
    Script.meaning line = .comment (Text.trim line) := by
  rcases h with h | h
  · rw [Script.meaning, h]
    rfl
  · obtain ⟨rest, hr⟩ := List.head?_eq_some_iff.mp h
    rw [Script.meaning, hr, ofLine_comment]

theorem blockLines_comment {source line : Text} (hl : line ∈ Source.lines source)
    (h : Text.trim line = [] ∨ (Text.trim line).head? = some '#') :
    blockLines (Script.meaning line) = ["    // ".toList ++ Text.trim line] := by
  have unbroken := (Source.lines_unbroken hl).of_isInfix (Text.trim_isInfix line)
  rw [meaning_comment h]
  have whole : '\n' ∉ "    // ".toList ++ Text.trim line := by simp [unbroken.2]
  simp only [blockLines, fragment?, Option.toList_some, List.flatMap_singleton]
  exact Text.splitOn_of_not_mem whole

/-- No source text brings further lines into its class. The class has its seven fixed lines, a block
for each line that was not dropped, whose height is that of its kind, and the closing line; and a
comment or blank line stays inside one comment. -/
theorem translate_layout (source : Text) :
    let name := (Script.parse source).metadata.name
    let kept := (Script.parse source).directives.filter (fun d => !d.isDropped)
    '\r' ∉ translate source ∧
    Text.splitOn '\n' (translate source) =
      ["public class ".toList ++ name ++ " extends JavaPlugin \x7b".toList,
        "    @Override".toList,
        "    public void onEnable() \x7b".toList,
        "        getLogger().info(\"".toList ++ name ++ " Enabled\");".toList,
        "        main();".toList,
        "    \x7d".toList,
        []] ++ kept.flatMap blockLines ++ ["\x7d".toList, []] ∧
    (∀ d ∈ kept, (blockLines d).length = height d) ∧
    (Script.parse source).directives = (Source.lines source).map Script.meaning ∧
    ∀ line ∈ Source.lines source, Text.trim line = [] ∨ (Text.trim line).head? = some '#' →
      blockLines (Script.meaning line) = ["    // ".toList ++ Text.trim line] := by
  refine ⟨translate_no_return source, splitOn_translate source, ?_,
    Script.parse_directives source, fun line => blockLines_comment⟩
  intro d hd
  have hd := (List.mem_filter.mp hd).1
  rw [Script.parse_directives] at hd
  obtain ⟨line, hl, rfl⟩ := List.mem_map.mp hd
  exact (fragment?_shape (Script.meaning_captures hl)).length_lines

end VoidScript.Plugin
