import VoidScript.Script
import VoidScript.Text.Quoted

/-!
The listing of a script: its metadata, then one line for each source line.
-/

namespace VoidScript

namespace Listing

def directive : Directive → Text
  | .function params name => "Function ".toList ++ name ++ " [".toList ++ params ++ "]".toList
  | .loop label => "Loop (".toList ++ label ++ ")".toList
  | .branch left right => "If [".toList ++ left ++ "] = [".toList ++ right ++ "]".toList
  | .elseIf condition => "Elif [".toList ++ condition ++ "]".toList
  | .otherwise => "Else".toList
  | .event event param => "EventHook on_".toList ++ event ++ " (".toList ++ param ++ ")".toList
  | .collection kind => "CollectionLiteral ".toList ++ kind.keyword
  | .broadcast message => "Broadcast ".toList ++ message
  | .comment text => "Comment ".toList ++ Text.Quoted.encode text
  | .passthrough text => "Passthrough ".toList ++ Text.Quoted.encode text
  | .dropped family => "Dropped (".toList ++ family.label ++ ")".toList

def line (line : Line) : Text :=
  "    ".toList ++ Text.padStart 4 (Text.decimal line.number) ++ ": ".toList
    ++ directive line.directive

def optional (key : String) (value : Option Text) : List Text :=
  value.toList.map fun text => "    ".toList ++ key.toList ++ ": ".toList ++ text

def metadata (metadata : Metadata) : List Text :=
  ["    name: ".toList ++ metadata.name] ++ optional "version" metadata.version
    ++ optional "author" metadata.author

def render (script : Script) : Text :=
  Text.unlines
    (["Script:".toList, "  Metadata:".toList] ++ metadata script.metadata
      ++ ["  Lines:".toList] ++ script.lines.map line)

end Listing

end VoidScript
