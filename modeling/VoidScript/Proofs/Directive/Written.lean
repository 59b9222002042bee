import VoidScript.Proofs.Script

/-!
Writing a script back. The written form of a directive that was read from one line is read as the
same directive; so printing a script is a normal form, which keeps all that was not dropped.

* `ofLine_written`: by the form through which the directive was read;
* `written?_unbroken`, `written?_trimmed`: a written form is one line without outer blanks;
* `written_normal_form`: hence the script that is printed is read back.
-/

namespace VoidScript.Directive

theorem pair?_again {keyword close : String} {marks : List Char} {line opening between : Text}
    {found : Text × Text} (hm : ']' ∉ marks) (hn : '\n' ∉ line)
    (opened : ∀ t, bracketed? keyword (opening ++ t) = some t)
    (spaced : ∀ t, skipTo? marks (between ++ t) = some t)
    (h : pair? keyword marks close line = some found) :
    pair? keyword marks close
      (opening ++ (found.1 ++ ']' :: (between ++ (found.2 ++ close.toList)))) = some found := by
  obtain ⟨inner, hi, hf⟩ := Option.bind_eq_some_iff.mp h
  have hinner : '\n' ∉ inner := fun hc => hn ((bracketed?_isSuffix hi).subset hc)
  have again := capturedBefore?_followed? hm hinner hf spaced []
  rw [List.append_nil] at again
  rw [pair?, opened, Option.bind_some, again]

theorem captured?_again {close : String} {s capture : Text} (h : captured? close s = some capture) :
    captured? close (capture ++ close.toList) = some capture := by
  simpa using captured?_of_captured? h []

/-- A capture behind an opening that leaves what follows it. -/
theorem opened_again {close : String} {line capture opening : Text} {open? : Text → Option Text}
    (opened : ∀ t, open? (opening ++ t) = some t)
    (h : (open? line).bind (captured? close) = some capture) :
    (open? (opening ++ (capture ++ close.toList))).bind (captured? close) = some capture := by
  obtain ⟨inner, -, hc⟩ := Option.bind_eq_some_iff.mp h
  rw [opened, Option.bind_some, captured?_again hc]

theorem eventAt?_again {s name param : Text} (h : eventAt? s = some (.event name param)) :
    eventAt? (name ++ '(' :: (param ++ "):".toList)) = some (.event name param) := by
  obtain ⟨param', rest, hd, hne, -, hp⟩ := eventAt?_eq_some h
  obtain ⟨rfl, rfl⟩ : name = s.takeWhile Text.isWord ∧ param = param' := by simpa using hd
  have word : ∀ c ∈ s.takeWhile Text.isWord, Text.isWord c = true := fun _ => List.mem_takeWhile_imp
  rw [eventAt?_call word hne, captured?_again hp]
  rfl

/-! ## Reading what was written -/

theorem ofLine_written {line text : Text} (hn : '\n' ∉ line)
    (hw : (ofLine line).written? = some text) : ofLine text = ofLine line := by
  have reading := ofLine_reading line
  generalize hd : ofLine line = d at hw reading ⊢
  cases reading with
  | @function params name h =>
    have opened (t : Text) : bracketed? "func" ("func [".toList ++ t) = some t := rfl
    have spaced (t : Text) : skipTo? ['('] ("(".toList ++ t) = some t := rfl
    have again := pair?_again (by decide) hn opened spaced h
    have ht : text =
        "func [".toList ++ (params ++ ']' :: ("(".toList ++ (name ++ "):".toList))) := by
      simpa [written?] using hw.symm
    rw [ht, ofLine_func, function?_eq, again]
    all_goals rfl
  | @branch left right h =>
    have opened (t : Text) : bracketed? "if" ("if [".toList ++ t) = some t := rfl
    have spaced (t : Text) : skipTo? ['=', '['] (" = [".toList ++ t) = some t := rfl
    have again := pair?_again (by decide) hn opened spaced h
    have ht : text =
        "if [".toList ++ (left ++ ']' :: (" = [".toList ++ (right ++ "]:".toList))) := by
      simpa [written?] using hw.symm
    rw [ht, ofLine_if, branch?_eq, again]
    all_goals rfl
  | @loop label h =>
    have opened (t : Text) : expect? "loop(" ("loop(".toList ++ t) = some t := rfl
    have ht : text = "loop(".toList ++ (label ++ "):".toList) := by simpa [written?] using hw.symm
    rw [ht, ofLine_loop, loop?_eq, opened_again opened h]
    all_goals rfl
  | @elseIf condition h =>
    have opened (t : Text) : bracketed? "elif" ("elif [".toList ++ t) = some t := rfl
    have ht : text = "elif [".toList ++ (condition ++ "]:".toList) := by
      simpa [written?] using hw.symm
    rw [ht, ofLine_elif, elseIf?_eq, opened_again opened h]
    all_goals rfl
  | @broadcast message h =>
    have opened (t : Text) : expect? "print(" ("print(".toList ++ t) = some t := rfl
    have ht : text = "print(".toList ++ (message ++ ")".toList) := by simpa [written?] using hw.symm
    rw [ht, ofLine_print, broadcast?_eq, opened_again opened h]
    all_goals rfl
  | @event inner name param h he =>
    have opened (t : Text) : hooked? ("def on_".toList ++ t) = some t := rfl
    have ht : text = "def on_".toList ++ (name ++ '(' :: (param ++ "):".toList)) := by
      simpa [written?] using hw.symm
    rw [ht, ofLine_def, event?_eq, opened, Option.bind_some, eventAt?_again he]
    all_goals rfl
  | collection kind =>
    obtain rfl := Option.some.inj hw
    cases kind <;> decide +kernel
  | otherwise =>
    obtain rfl := Option.some.inj hw
    rfl
  | comment | passthrough =>
    obtain rfl := Option.some.inj hw
    exact hd
  | dropped family => cases hw

/-! ## A written form is one line -/

theorem written?_unbroken {d : Directive} {text : Text}
    (captures : ∀ capture ∈ d.captures, Text.Unbroken capture) (hw : d.written? = some text) :
    Text.Unbroken text := by
  cases d with
  | dropped => cases hw
  | otherwise =>
    obtain rfl := Option.some.inj hw
    decide
  | collection kind =>
    obtain rfl := Option.some.inj hw
    cases kind <;> decide
  | _ =>
    obtain rfl := Option.some.inj hw
    simpa [Directive.captures] using captures

theorem written?_trimmed {line text : Text} (trimmed : Text.trim line = line)
    (hw : (ofLine line).written? = some text) : Text.trim text = text := by
  have reading := ofLine_reading line
  generalize ofLine line = d at hw reading
  cases reading with
  | comment | passthrough =>
    obtain rfl := Option.some.inj hw
    exact trimmed
  | dropped => cases hw
  | function =>
    obtain rfl := Option.some.inj hw
    exact Text.trim_of_ends 'f' ':' rfl rfl (by simp) (by simp [List.getLast?_cons])
  | loop =>
    obtain rfl := Option.some.inj hw
    exact Text.trim_of_ends 'l' ':' rfl rfl (by simp) (by simp [List.getLast?_cons])
  | branch =>
    obtain rfl := Option.some.inj hw
    exact Text.trim_of_ends 'i' ':' rfl rfl (by simp) (by simp [List.getLast?_cons])
  | elseIf | otherwise =>
    obtain rfl := Option.some.inj hw
    exact Text.trim_of_ends 'e' ':' rfl rfl (by simp) (by simp [List.getLast?_cons])
  | event =>
    obtain rfl := Option.some.inj hw
    exact Text.trim_of_ends 'd' ':' rfl rfl (by simp) (by simp [List.getLast?_cons])
  | collection =>
    obtain rfl := Option.some.inj hw
    exact Text.trim_of_ends 'x' ']' rfl rfl (by simp) (by simp [List.getLast?_cons])
  | broadcast =>
    obtain rfl := Option.some.inj hw
    exact Text.trim_of_ends 'p' ')' rfl rfl (by simp) (by simp [List.getLast?_cons])

theorem written?_eq_none_iff {d : Directive} : d.written? = none ↔ d.isDropped = true := by
  cases d <;> simp [written?, isDropped]

end VoidScript.Directive

namespace VoidScript.Script

open Directive

theorem meaning_written {source line text : Text} (h : line ∈ Source.lines source)
    (hw : (meaning line).written? = some text) : meaning text = meaning line := by
  have hn : '\n' ∉ Text.trim line :=
    ((Source.lines_unbroken h).of_isInfix (Text.trim_isInfix line)).2
  rw [meaning, written?_trimmed (Text.trim_trim line) hw]
  exact ofLine_written hn hw

theorem lines_written (source : Text) :
    Source.lines (parse source).written = (parse source).directives.filterMap written? := by
  rw [written]
  apply Source.lines_unlines
  intro text ht
  obtain ⟨d, hd, hw⟩ := List.mem_filterMap.mp ht
  rw [parse_directives] at hd
  obtain ⟨line, hl, rfl⟩ := List.mem_map.mp hd
  exact written?_unbroken (meaning_captures hl) hw

theorem map_meaning_written {ds : List Directive}
    (h : ∀ d ∈ ds, ∀ text, d.written? = some text → meaning text = d) :
    (ds.filterMap written?).map meaning = ds.filter (fun d => !d.isDropped) := by
  induction ds with
  | nil => rfl
  | cons d ds ih =>
    obtain ⟨hd, hds⟩ := List.forall_mem_cons.mp h
    cases hw : d.written? with
    | none => simp [hw, written?_eq_none_iff.mp hw, ih hds]
    | some text =>
      have kept : d.isDropped = false := by
        rw [← Bool.not_eq_true, ← written?_eq_none_iff, hw]
        simp
      simp [hw, kept, hd text hw, ih hds]

theorem parse_written_directives (source : Text) :
    (parse (parse source).written).directives =
      (parse source).directives.filter (fun d => !d.isDropped) := by
  rw [parse_directives, lines_written]
  apply map_meaning_written
  intro d hd text hw
  rw [parse_directives] at hd
  obtain ⟨line, hl, rfl⟩ := List.mem_map.mp hd
  exact meaning_written hl hw

/-- A function that gives nothing for dropped lines does not see them. -/
theorem filterMap_filter_kept {f : Directive → Option α} (h : ∀ family, f (.dropped family) = none)
    (ds : List Directive) : (ds.filter (fun d => !d.isDropped)).filterMap f = ds.filterMap f := by
  rw [List.filterMap_filter]
  apply List.filterMap_congr
  intro d _
  cases d <;> simp [isDropped, h]

/-- Printing a script, whose directives are those of its lines, is a normal form. It is read as the
directives that were not dropped, in their order, gives the same fragments, and is printed as it
is. -/
theorem written_normal_form (source : Text) :
    (parse source).directives = (Source.lines source).map meaning ∧
    (parse (parse source).written).directives =
      (parse source).directives.filter (fun d => !d.isDropped) ∧
    Plugin.fragments (parse source).written = Plugin.fragments source ∧
    (parse (parse source).written).written = (parse source).written := by
  have kept := parse_written_directives source
  refine ⟨parse_directives source, kept, ?_, ?_⟩
  · rw [Plugin.fragments_eq_directives, kept, filterMap_filter_kept (fun _ => rfl),
      Plugin.fragments_eq_directives]
  · rw [written, kept, filterMap_filter_kept (fun _ => rfl)]
    rfl

end VoidScript.Script
