import VoidScript.Log
import VoidScript.Text.Alphanumeric
import VoidScript.Text.Blank

/-!
Log filters: rules, separated by commas, that say which records are shown. A rule is a threshold,
or the start of a component's name with the threshold for it. Of the rules that concern a record
the most specific one decides, and a record that no rule concerns is not shown.
-/

namespace VoidScript.Log

structure Rule where
  /-- What the name of a component starts with. -/
  target : Text
  /-- What a record has to carry. -/
  field : Option Text
  /-- An idle rule concerns no record. -/
  idle : Bool
  threshold : Threshold
  deriving DecidableEq, Repr

namespace Rule

/-- The rule for all records. -/
def general (threshold : Threshold) : Rule := ⟨[], none, false, threshold⟩

/-- A rule as it is written: `target[scope{field}]=threshold`, where all but one part may be left
out. -/
structure Parts where
  target : Text
  scope : Option Text
  field : Option Text
  threshold : Option Text
  deriving DecidableEq, Repr

namespace Parts

/-- What follows a scope. -/
def readEnd (parts : Parts) (s : Text) : Option Parts :=
  match s with
  | '=' :: threshold => some { parts with threshold := some threshold }
  | rest => if rest.all Text.isBlank then some parts else none

/-- The inside of brackets, with a field in braces at its end. -/
def readScope (target s : Text) : Option Parts :=
  let scope := s.takeWhile fun c => c ≠ ']' && c ≠ '\x7b'
  match s.drop scope.length with
  | ']' :: rest => readEnd ⟨target, some scope, none, none⟩ rest
  | '\x7b' :: inner =>
      let field := inner.takeWhile (· ≠ '\x7d')
      match inner.drop field.length with
      | '\x7d' :: ']' :: rest =>
          if field.isEmpty then none else readEnd ⟨target, some scope, some field, none⟩ rest
      | _ => none
  | _ => none

def ofText? (s : Text) : Option Parts :=
  let target := s.takeWhile fun c => c ≠ '=' && c ≠ '['
  match s.drop target.length with
  | '=' :: threshold => some ⟨target, none, none, some threshold⟩
  | '[' :: scope => readScope target scope
  | _ => some ⟨target, none, none, none⟩

/-- A rule about a named scope, or about what a field holds in a scope, is idle: no record of a
build has a scope. -/
def isIdle (parts : Parts) : Bool :=
  match parts.scope, parts.field with
  | none, _ => false
  | some _, none => true
  | some scope, some field => !scope.isEmpty || field.contains '='

def toRule (parts : Parts) (threshold : Threshold) : Rule :=
  ⟨parts.target, parts.field, parts.isIdle, threshold⟩

end Parts

/-- Everything is shown where no threshold is given. What stands alone is a threshold if it can be
read as one, else a target. -/
def ofParts? (parts : Parts) : Option Rule :=
  match parts.threshold, parts.scope with
  | some [], _ => some (parts.toRule (.upTo .trace))
  | some threshold, _ => (Threshold.ofText? threshold).map parts.toRule
  | none, some _ => some (parts.toRule (.upTo .trace))
  | none, none =>
      match Threshold.ofText? parts.target with
      | some threshold => some (general threshold)
      | none => some (parts.toRule (.upTo .trace))

/-- Blanks before a rule spoil it: it is refused if it announces a threshold, and otherwise it
concerns nothing. -/
def ofIndentedParts? (parts : Parts) : Option Rule :=
  if parts.threshold.isSome then none else some { parts.toRule .off with idle := true }

/-- A target or a threshold starts with a letter, a number or one of three marks, and a scope with
a bracket. -/
def startsRule (c : Char) : Bool :=
  c == '-' || c == ':' || c == '_' || c == '[' || Text.isAlphanumeric c

def ofText? (s : Text) : Option Rule :=
  let flush := Text.skipBlanks s
  if flush.head?.any startsRule then
    (Parts.ofText? flush).bind (if flush.length = s.length then ofParts? else ofIndentedParts?)
  else none

def concerns (rule : Rule) (event : Event) : Bool :=
  !rule.idle && rule.target.isPrefixOf event.component.name
    && rule.field.all event.fields.contains

/-- Of two rules for one record: a longer target is more specific, then a field, then the field
whose name comes later. -/
def yieldsTo (rule other : Rule) : Bool :=
  if rule.target.length = other.target.length then
    match rule.field, other.field with
    | none, _ => true
    | some _, none => false
    | some mine, some theirs => !decide (theirs < mine)
  else rule.target.length < other.target.length

end Rule

/-- The rules in the order in which they are given. -/
abbrev Filter := List Rule

namespace Filter

/-- Reads a filter. Empty rules are left out, and one rule that is refused spoils the filter. -/
def ofText? (s : Text) : Option Filter :=
  ((Text.splitOn ',' s).filter (!·.isEmpty)).mapM Rule.ofText?

/-- The most specific rule for a record, of equal ones the last. -/
def ruleFor? (filter : Filter) (event : Event) : Option Rule :=
  (filter.filter (·.concerns event)).foldl
    (fun best rule =>
      match best with
      | some best => if best.yieldsTo rule then some rule else some best
      | none => some rule)
    none

def shows (filter : Filter) (event : Event) : Bool :=
  (filter.ruleFor? event).any (·.threshold.shows event.level)

end Filter

end VoidScript.Log
