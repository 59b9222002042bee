import VoidScript.Proofs.Directive.Grammar

/-!
Text behind a directive. Most forms say themselves where they end, and what stands behind them on
the line is not looked at. Text that is added there could complete a shorter first capture, whose
own end was missing before; but each end that can be reached from an earlier bracket is the one
that the whole form has already reached.

* `captured?_append`: where a capture ends, or that it may not end there, does not depend on what
  follows its end;
* `capturedBefore?_append`: so no earlier bracket becomes the end of the first capture;
* `Steady`: every form of this kind keeps its directive, one lemma each;
* `suffix_changes_no_directive`: hence whole lines do.
-/

namespace VoidScript.Directive

/-- Directives whose form says where it ends. A collection literal, a comment and any other line go
on to the end of the line. -/
def isSelfDelimiting : Directive → Bool
  | .function .. | .loop _ | .branch .. | .elseIf _ | .otherwise | .event .. | .broadcast _ => true
  | .collection _ | .comment _ | .passthrough _ | .dropped _ => false

/-! ## Captures -/

/-- The first end decides, also where a line feed stands before it. -/
theorem captured?_append {close : String} {s : Text} (h : close.toList <:+: s) (text : Text) :
    captured? close (s ++ text) = captured? close s := by
  obtain ⟨before, after, found, longer⟩ := Text.cut?_append_of_isInfix h text
  simp only [captured?, found, longer]

theorem captured?_append_of_some {close : String} {s capture : Text}
    (h : captured? close s = some capture) (text : Text) :
    captured? close (s ++ text) = some capture := by
  obtain ⟨rest, rfl⟩ := captured?_split h
  have ended : close.toList <:+: capture ++ (close.toList ++ rest) :=
    ⟨capture, rest, List.append_assoc ..⟩
  rw [captured?_append ended, h]

theorem skipTo?_append_of_some {marks : List Char} (solid : Text.Solid marks) {s rest : Text}
    (h : skipTo? marks s = some rest) (text : Text) :
    skipTo? marks (s ++ text) = some (rest ++ text) := by
  obtain ⟨between, marked, rfl⟩ := (skipTo?_eq_some_iff solid).mp h
  exact (skipTo?_eq_some_iff solid).mpr ⟨between, marked, List.append_assoc ..⟩

/-- An earlier bracket that did not end the first capture does not end it with more text either: the
marks behind it stand before the bracket that does, and the end of the second capture behind that
one could be reached before. -/
theorem followed?_append_eq_none {marks : List Char} (hm : ']' ∉ marks) {close : String}
    {b rest : Text} (ended : close.toList <:+: rest)
    (h : followed? marks close (b ++ ']' :: rest) = none) (text : Text) :
    followed? marks close (b ++ ']' :: (rest ++ text)) = none := by
  rw [followed?, skipTo?_append hm] at h ⊢
  cases skipped : skipTo? marks b with
  | none => rfl
  | some y =>
    rw [skipped, Option.map_some, Option.bind_some] at h
    have later : rest <:+ y ++ ']' :: rest := ⟨y ++ [']'], by simp⟩
    have same := captured?_append (ended.trans later.isInfix) text
    rw [h] at same
    simpa using same

theorem capturedBefore?_append {marks : List Char} (hm : ']' ∉ marks) (solid : Text.Solid marks)
    {close : String} {s capture found : Text}
    (h : capturedBefore? ']' (followed? marks close) s = some (capture, found)) (text : Text) :
    capturedBefore? ']' (followed? marks close) (s ++ text) = some (capture, found) := by
  obtain ⟨rest, rfl, hn, next, least⟩ := capturedBefore?_shortest h
  obtain ⟨inner, skipped, captured⟩ := Option.bind_eq_some_iff.mp next
  have ended : close.toList <:+: rest := by
    obtain ⟨front, rfl⟩ := skipTo?_isSuffix skipped
    obtain ⟨after, rfl⟩ := captured?_split captured
    exact ⟨front ++ found, after, by simp⟩
  apply Shortest.capturedBefore?
  refine ⟨rest ++ text, by simp, hn, ?_, ?_⟩
  · rw [followed?, skipTo?_append_of_some solid skipped, Option.bind_some]
    exact captured?_append_of_some captured text
  · intro a b hab
    exact followed?_append_eq_none hm ended (least a b hab) text

/-! ## Forms -/

/-- What has the form keeps its directive when text is added behind it. -/
def Steady (form : Text → Option Directive) : Prop :=
  ∀ line directive, form line = some directive → ∀ text, form (line ++ text) = some directive

theorem steady_map {form : Text → Option Directive} {read? : Text → Option α}
    {make : α → Directive} (eq : ∀ line, form line = (read? line).map make)
    (kept : ∀ line found, read? line = some found → ∀ text, read? (line ++ text) = some found) :
    Steady form := by
  intro line directive h text
  rw [eq] at h ⊢
  obtain ⟨found, read, rfl⟩ := Option.map_eq_some_iff.mp h
  rw [kept line found read text, Option.map_some]

theorem expect?_append {literal : String} {s rest : Text} (h : expect? literal s = some rest)
    (text : Text) : expect? literal (s ++ text) = some (rest ++ text) := by
  obtain rfl := Text.after?_eq_some_iff.mp h
  exact Text.after?_eq_some_iff.mpr (List.append_assoc ..)

theorem bracketed?_append {keyword : String} {line inner : Text}
    (h : bracketed? keyword line = some inner) (text : Text) :
    bracketed? keyword (line ++ text) = some (inner ++ text) := by
  obtain ⟨blanks, hne, hb, rfl⟩ := bracketed?_eq_some_iff.mp h
  exact bracketed?_eq_some_iff.mpr ⟨blanks, hne, hb, by simp⟩

theorem hooked?_append {line inner : Text} (h : hooked? line = some inner) (text : Text) :
    hooked? (line ++ text) = some (inner ++ text) := by
  obtain ⟨blanks, hne, hb, rfl⟩ := hooked?_eq_some_iff.mp h
  exact hooked?_eq_some_iff.mpr ⟨blanks, hne, hb, by simp⟩

/-- A capture behind an opening that reads no further than it has to. -/
theorem opened_append {open? : Text → Option Text} {close : String}
    (opened : ∀ s rest, open? s = some rest → ∀ text, open? (s ++ text) = some (rest ++ text))
    {line capture : Text} (h : (open? line).bind (captured? close) = some capture) (text : Text) :
    (open? (line ++ text)).bind (captured? close) = some capture := by
  obtain ⟨inner, hi, hc⟩ := Option.bind_eq_some_iff.mp h
  rw [opened line inner hi text, Option.bind_some]
  exact captured?_append_of_some hc text

theorem pair?_append {keyword close : String} {marks : List Char} (hm : ']' ∉ marks)
    (solid : Text.Solid marks) {line : Text} {found : Text × Text}
    (h : pair? keyword marks close line = some found) (text : Text) :
    pair? keyword marks close (line ++ text) = some found := by
  obtain ⟨inner, hi, hf⟩ := Option.bind_eq_some_iff.mp h
  rw [pair?, bracketed?_append hi, Option.bind_some]
  exact capturedBefore?_append hm solid hf text

theorem eventAt?_append {s : Text} {directive : Directive} (h : eventAt? s = some directive)
    (text : Text) : eventAt? (s ++ text) = some directive := by
  obtain ⟨param, rest, rfl, hne, behind, captured⟩ := eventAt?_eq_some h
  have word : ∀ c ∈ s.takeWhile Text.isWord, Text.isWord c = true :=
    fun _ => List.mem_takeWhile_imp
  have split : s ++ text = s.takeWhile Text.isWord ++ '(' :: (rest ++ text) := by
    calc s ++ text = s.takeWhile Text.isWord ++ s.dropWhile Text.isWord ++ text := by
          rw [List.takeWhile_append_dropWhile]
      _ = s.takeWhile Text.isWord ++ '(' :: (rest ++ text) := by rw [behind]; simp
  rw [split, eventAt?_call word hne, captured?_append_of_some captured, Option.map_some]

theorem function?_steady : Steady function? :=
  steady_map function?_eq fun _ _ h => pair?_append (by decide) (by decide) h

theorem loop?_steady : Steady loop? :=
  steady_map loop?_eq fun _ _ h => opened_append (fun _ _ => expect?_append) h

theorem branch?_steady : Steady branch? :=
  steady_map branch?_eq fun _ _ h => pair?_append (by decide) (by decide) h

theorem elseIf?_steady : Steady elseIf? :=
  steady_map elseIf?_eq fun _ _ h => opened_append (fun _ _ => bracketed?_append) h

theorem broadcast?_steady : Steady broadcast? :=
  steady_map broadcast?_eq fun _ _ h => opened_append (fun _ _ => expect?_append) h

theorem event?_steady : Steady event? := by
  intro line directive h text
  rw [event?_eq] at h ⊢
  obtain ⟨inner, hooked, read⟩ := Option.bind_eq_some_iff.mp h
  rw [hooked?_append hooked, Option.bind_some]
  exact eventAt?_append read text

/-! ## Lines -/

theorem startsWith_append {keyword : String} {line : Text} (h : startsWith keyword line = true)
    (text : Text) : startsWith keyword (line ++ text) = true := by
  have start := List.isPrefixOf_iff_prefix.mp h
  exact List.isPrefixOf_iff_prefix.mpr (start.trans (List.prefix_append line text))

/-- A keyword with a steady form, where the line has that form. -/
theorem ofLine_append_of_steady {keyword : String} {form : Text → Option Directive}
    {family : Family}
    (route : ∀ {line}, startsWith keyword line = true →
      ofLine line = (form line).getD (.dropped family))
    (steady : Steady form) {line : Text} (starts : startsWith keyword line = true)
    (h : (ofLine line).isSelfDelimiting = true) (text : Text) :
    ofLine (line ++ text) = ofLine line := by
  rw [route (startsWith_append starts text)]
  rw [route starts] at h ⊢
  cases read : form line with
  | none =>
    rw [read] at h
    cases h
  | some directive => rw [steady line directive read text]

/-- A line that no keyword starts goes on to its end. -/
theorem startsWith_of_isSelfDelimiting {line : Text} (h : (ofLine line).isSelfDelimiting = true) :
    ∃ keyword ∈ ["func", "loop", "if", "elif", "else", "def", "print("],
      startsWith keyword line = true := by
  by_contra absent
  simp only [List.mem_cons, List.not_mem_nil, or_false, exists_eq_or_imp, exists_eq_left,
    not_or] at absent
  obtain ⟨func, loop, branch, elseIf, otherwise, event, call⟩ := absent
  rw [ofLine, if_neg func, if_neg loop, if_neg branch, if_neg elseIf, if_neg otherwise,
    if_neg event, if_neg call] at h
  split at h
  · rw [collection?] at h
    cases found : Collection.all.find? fun kind => Text.occurs kind.keyword line with
    | none =>
      rw [found] at h
      cases h
    | some kind =>
      rw [found] at h
      cases h
  · split at h <;> cases h

/-- Text behind a directive that says itself where it ends changes neither the directive nor what it
captures, whatever the text is and wherever the lines in it end. -/
theorem suffix_changes_no_directive {line : Text} (h : (ofLine line).isSelfDelimiting = true)
    (text : Text) : ofLine (line ++ text) = ofLine line := by
  obtain ⟨keyword, listed, starts⟩ := startsWith_of_isSelfDelimiting h
  simp only [List.mem_cons, List.not_mem_nil, or_false] at listed
  rcases listed with rfl | rfl | rfl | rfl | rfl | rfl | rfl
  · exact ofLine_append_of_steady ofLine_func function?_steady starts h text
  · exact ofLine_append_of_steady ofLine_loop loop?_steady starts h text
  · exact ofLine_append_of_steady ofLine_if branch?_steady starts h text
  · exact ofLine_append_of_steady ofLine_elif elseIf?_steady starts h text
  · rw [ofLine_else starts, ofLine_else (startsWith_append starts text)]
  · exact ofLine_append_of_steady ofLine_def event?_steady starts h text
  · exact ofLine_append_of_steady ofLine_print broadcast?_steady starts h text

/-- Behind the first bracket of each line stands the beginning of a shorter form, and the text brings
an end for it. A line feed stands before that end in the function, and no second bracket opens in the
branch. -/
theorem suffix_changes_no_directive_of_backtracking :
    let function := "func [a](x]\n(b):".toList
    let branch := "if [a] = x]\t=\n[b]:".toList
    (ofLine function).isSelfDelimiting = true ∧
    ofLine (function ++ "):\r\n](c):".toList) = .function "a](x".toList "b".toList ∧
    (ofLine branch).isSelfDelimiting = true ∧
    ofLine (branch ++ "] = [c]:".toList) = .branch "a] = x".toList "b".toList := by
  intro function branch
  have named : ofLine function = .function "a](x".toList "b".toList := by decide +kernel
  have sided : ofLine branch = .branch "a] = x".toList "b".toList := by decide +kernel
  have hf : (ofLine function).isSelfDelimiting = true := by rw [named]; rfl
  have hb : (ofLine branch).isSelfDelimiting = true := by rw [sided]; rfl
  refine ⟨hf, ?_, hb, ?_⟩
  · rw [suffix_changes_no_directive hf, named]
  · rw [suffix_changes_no_directive hb, sided]

end VoidScript.Directive
