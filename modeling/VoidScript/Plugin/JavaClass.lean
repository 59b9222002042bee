import VoidScript.Plugin.Fragment
import VoidScript.Script

/-!
The generated plugin class: a fixed preamble that enables the plugin, then the fragments of its
script in source order.
-/

namespace VoidScript.Plugin

/-- A plugin class before it is written out as text. -/
structure JavaClass where
  name : Text
  fragments : List Text
  deriving DecidableEq, Repr

namespace JavaClass

def fileName (plugin : JavaClass) : Text := plugin.name ++ ".java".toList

def preamble (className : Text) : List Text :=
  ["public class ".toList ++ className ++ " extends JavaPlugin \x7b".toList,
   "    @Override".toList,
   "    public void onEnable() \x7b".toList,
   "        getLogger().info(\"".toList ++ className ++ " Enabled\");".toList,
   "        main();".toList,
   "    \x7d".toList,
   []]

def render (plugin : JavaClass) : Text :=
  Text.unlines (preamble plugin.name ++ plugin.fragments ++ ["\x7d".toList])

end JavaClass

end VoidScript.Plugin
