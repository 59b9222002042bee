import VoidScript.CommandLine.Arguments
import VoidScript.Text.Control

/-!
The help of the compiler's command line: its usage and a table of its options. The names of the
options are bold on a display. What the environment sets is shown as it is, so a control sequence
in it may hide text up to the next name.
-/

namespace VoidScript.CommandLine.Help

open Text.Control (bold)

structure Row where
  letter : Option Char
  name : Text
  value : Option Text
  about : Text

/-- Where the descriptions start. -/
def column : Nat := 31

def spaces (n : Nat) : Text := List.replicate n ' '

/-- The further lines of a description start in its column. -/
def indent (s : Text) : Text :=
  s.flatMap fun c => if c = '\n' then '\n' :: spaces column else [c]

namespace Row

def ofSwitch (switch : Switch) (letter : Option Char) (about : String) : Row :=
  ⟨letter, switch.name, none, about.toList⟩

def letterPart (row : Row) : Text :=
  match row.letter with
  | some letter => bold ['-', letter] ++ ", ".toList
  | none => spaces 4

def valuePart (row : Row) : Text :=
  row.value.toList.flatMap fun value => " <".toList ++ value ++ ">".toList

/-- How many columns the option takes, with its margin. -/
def width (row : Row) : Nat := 8 + row.name.length + row.valuePart.length

def render (row : Row) : Text :=
  spaces 2 ++ row.letterPart ++ bold ("--".toList ++ row.name) ++ row.valuePart
    ++ spaces (column - row.width) ++ indent row.about

end Row

/-- A variable with its present value, and what holds without it. -/
def setting (name : String) (value : Option Text) (default : String) : Text :=
  " [env: ".toList ++ name.toList ++ "=".toList ++ value.getD [] ++ "] [default: ".toList
    ++ default.toList ++ "]".toList

def rows (javac jar : Option Text) : List Row :=
  [⟨some 'o', "output".toList, some "DIR".toList, "Output directory for generated files".toList⟩,
   .ofSwitch .emitOnly none "Print the generated Java and exit without writing files",
   .ofSwitch .noPackage none "Write the Java file but skip javac and jar",
   .ofSwitch .descriptor none "Also write plugin.yml and add it to the jar",
   ⟨none, "classpath".toList, some "CLASSPATH".toList,
    "Classpath passed to javac (e.g. the Bukkit API jar)".toList⟩,
   ⟨none, "javac".toList, some "JAVAC".toList,
    "javac executable".toList ++ setting "VOIDC_JAVAC" javac "javac"⟩,
   ⟨none, "jar".toList, some "JAR".toList,
    "jar executable".toList ++ setting "VOIDC_JAR" jar "jar"⟩,
   .ofSwitch .strict none "Exit with an error when javac or jar fails",
   .ofSwitch .verbose (some 'v') "Enable verbose output",
   .ofSwitch .help (some 'h') "Print help",
   .ofSwitch .version (some 'V') "Print version"]

def introduction : List Text :=
  ["VoidScript compiler - turns VoidScript into a packaged Bukkit plugin".toList,
   [],
   "Usage: voidc [OPTIONS] [FILE]".toList,
   [],
   "Arguments:".toList,
   "  [FILE]  Input VoidScript source file [default: main.void]".toList,
   [],
   "Options:".toList]

/-- The help for given values of the variables. -/
def text (javac jar : Option Text) : Text :=
  Text.Control.visible (Text.unlines (introduction ++ (rows javac jar).map Row.render))

end VoidScript.CommandLine.Help
