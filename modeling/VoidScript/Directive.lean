import VoidScript.Text

/-!
Directives: what one line of a script means. Each has a written form, by which a script can be
printed back.
-/

namespace VoidScript

inductive Collection
  | list
  | dict
  | set
  | tuple
  deriving DecidableEq, Repr

namespace Collection

def keyword : Collection → Text
  | .list => "list".toList
  | .dict => "dict".toList
  | .set => "set".toList
  | .tuple => "tuple".toList

/-- In the order in which a line is searched for their keywords. -/
def all : List Collection := [.list, .dict, .set, .tuple]

end Collection

/-- The families of directives that a line can start without completing. -/
inductive Family
  | function
  | loop
  | branch
  | elseIf
  | event
  | collection
  | broadcast
  deriving DecidableEq, Repr

def Family.label : Family → Text
  | .function => "Function".toList
  | .loop => "Loop".toList
  | .branch => "If".toList
  | .elseIf => "Elif".toList
  | .event => "EventHook".toList
  | .collection => "CollectionLiteral".toList
  | .broadcast => "Broadcast".toList

inductive Directive
  | function (params name : Text)
  | loop (label : Text)
  | branch (left right : Text)
  | elseIf (condition : Text)
  | otherwise
  | event (name param : Text)
  | collection (kind : Collection)
  | broadcast (message : Text)
  | comment (text : Text)
  | passthrough (text : Text)
  /-- The line starts like a directive of the family and does not have its form. -/
  | dropped (family : Family)
  deriving DecidableEq, Repr

namespace Directive

def isDropped : Directive → Bool
  | .dropped _ => true
  | _ => false

/-- The written form of a directive. A dropped line has none. -/
def written? : Directive → Option Text
  | .function params name =>
      some ("func [".toList ++ params ++ "](".toList ++ name ++ "):".toList)
  | .loop label => some ("loop(".toList ++ label ++ "):".toList)
  | .branch left right => some ("if [".toList ++ left ++ "] = [".toList ++ right ++ "]:".toList)
  | .elseIf condition => some ("elif [".toList ++ condition ++ "]:".toList)
  | .otherwise => some "else:".toList
  | .event name param => some ("def on_".toList ++ name ++ "(".toList ++ param ++ "):".toList)
  | .collection kind => some ("x = [".toList ++ kind.keyword ++ "]".toList)
  | .broadcast message => some ("print(".toList ++ message ++ ")".toList)
  | .comment text => some text
  | .passthrough text => some text
  | .dropped _ => none

end Directive

end VoidScript
