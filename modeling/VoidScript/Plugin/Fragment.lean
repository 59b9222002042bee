import VoidScript.Directive
import VoidScript.Text.Case

/-!
Fragments: the Java text that stands for one directive inside the plugin class. Captured text is
copied as it is.
-/

namespace VoidScript.Plugin

/-- A declaration or statement with a body, indented once. -/
def block (head : Text) (body : List Text) : Text :=
  "    ".toList ++ head ++ " \x7b".toList
    ++ body.flatMap (fun line => "\n        ".toList ++ line) ++ "\n    \x7d".toList

def declaration : Collection → Text
  | .list => "    List<String> list = new ArrayList<>(); // List initialization".toList
  | .dict => "    Map<String, String> dict = new HashMap<>(); // Dictionary initialization".toList
  | .set => "    Set<String> set = new HashSet<>(); // Set initialization".toList
  | .tuple => "    Object[] tuple = new Object[3]; // Tuple initialization".toList

/-- The fragment of a directive. A dropped line has none. -/
def fragment? : Directive → Option Text
  | .function params name =>
      some (block ("public void ".toList ++ name ++ "(".toList ++ params ++ ")".toList)
        ["// Function logic here".toList, "return;".toList])
  | .loop _ =>
      some (block "while (true)".toList ["// Looping logic here".toList, "// break;".toList])
  | .branch left right =>
      some (block ("if (".toList ++ left ++ " == ".toList ++ right ++ ")".toList)
        ["// If logic here".toList])
  | .elseIf condition =>
      some (block ("else if (".toList ++ condition ++ ")".toList) ["// Else if logic here".toList])
  | .otherwise => some (block "else".toList ["// Else logic here".toList])
  | .event event param =>
      some (block ("public void on".toList ++ Text.Case.capitalize event ++ "(".toList ++ param
          ++ ")".toList)
        ["// Event handling logic here".toList])
  | .collection kind => some (declaration kind)
  | .broadcast message =>
      some (block "for (Player p : Bukkit.getOnlinePlayers())".toList
        ["p.sendMessage(".toList ++ message ++ ");".toList])
  | .comment text => some ("    // ".toList ++ text)
  | .passthrough text => some ("    ".toList ++ text)
  | .dropped _ => none

end VoidScript.Plugin
