import VoidScript.Text.Control

/-!
The arguments of the compiler's command line. They are read from left to right and the first
problem wins. A value that was read is judged when the next argument is recognised, so an argument
that is not recognised is reported before a bad value that stands before it.
-/

namespace VoidScript.CommandLine

inductive Switch
  | emitOnly
  | noPackage
  | descriptor
  | strict
  | verbose
  | help
  | version
  deriving DecidableEq, Repr

/-- What takes a value. -/
inductive Slot
  | file
  | output
  | classpath
  | javac
  | jar
  deriving DecidableEq, Repr

def Switch.name : Switch → Text
  | .emitOnly => "emit-only".toList
  | .noPackage => "no-package".toList
  | .descriptor => "descriptor".toList
  | .strict => "strict".toList
  | .verbose => "verbose".toList
  | .help => "help".toList
  | .version => "version".toList

def Switch.all : List Switch :=
  [.emitOnly, .noPackage, .descriptor, .strict, .verbose, .help, .version]

def Switch.label (switch : Switch) : Text := "--".toList ++ switch.name

/-- The switch that a single letter stands for. -/
def Switch.ofLetter? : Char → Option Switch
  | 'v' => some .verbose
  | 'h' => some .help
  | 'V' => some .version
  | _ => none

/-- The name of an option with a value. The file has none. -/
def Slot.name? : Slot → Option Text
  | .file => none
  | .output => some "output".toList
  | .classpath => some "classpath".toList
  | .javac => some "javac".toList
  | .jar => some "jar".toList

def Slot.all : List Slot := [.file, .output, .classpath, .javac, .jar]

def Slot.label : Slot → Text
  | .file => "[FILE]".toList
  | .output => "--output <DIR>".toList
  | .classpath => "--classpath <CLASSPATH>".toList
  | .javac => "--javac <JAVAC>".toList
  | .jar => "--jar <JAR>".toList

/-- All values but the class path are paths, and no path is empty. -/
def Slot.allowsEmpty (slot : Slot) : Bool := slot == .classpath

inductive UsageError
  | unexpectedArgument (argument : Text)
  | valueRequired (slot : Slot)
  | repeatedSwitch (switch : Switch)
  | repeatedValue (slot : Slot)
  | unexpectedValue (value : Text) (switch : Switch)
  deriving DecidableEq, Repr

/-- What was given on the command line is quoted without its control sequences. -/
def UsageError.message : UsageError → Text
  | .unexpectedArgument argument =>
      "error: unexpected argument '".toList ++ Text.Control.visible argument ++ "' found".toList
  | .valueRequired slot =>
      "error: a value is required for '".toList ++ slot.label
        ++ "' but none was supplied".toList
  | .repeatedSwitch switch =>
      "error: the argument '".toList ++ switch.label ++ "' cannot be used multiple times".toList
  | .repeatedValue slot =>
      "error: the argument '".toList ++ slot.label ++ "' cannot be used multiple times".toList
  | .unexpectedValue value switch =>
      "error: unexpected value '".toList ++ Text.Control.visible value ++ "' for '".toList
        ++ switch.label ++ "' found; no more were expected".toList

/-- Why nothing is to be built. -/
inductive Stop
  | help
  | version
  | misused (error : UsageError)
  deriving DecidableEq, Repr

structure Arguments where
  switches : List Switch
  values : List (Slot × Text)
  /-- What was read last and is not judged yet: a value, or an option that waits for one. -/
  pending : Option (Slot × Option Text)
  deriving DecidableEq, Repr

namespace Arguments

abbrev Reading := Except Stop Arguments

def empty : Arguments := ⟨[], [], none⟩

def misused (error : UsageError) : Reading := .error (.misused error)

/-- Judges what is pending. -/
def settle (arguments : Arguments) : Reading :=
  match arguments.pending with
  | none => .ok arguments
  | some (slot, none) => misused (.valueRequired slot)
  | some (slot, some value) =>
      if (arguments.values.lookup slot).isSome then misused (.repeatedValue slot)
      else if value.isEmpty && !slot.allowsEmpty then misused (.valueRequired slot)
      else .ok { arguments with values := arguments.values ++ [(slot, value)], pending := none }

def turnOn (arguments : Arguments) (switch : Switch) : Reading := do
  let arguments ← arguments.settle
  match switch with
  | .help => .error .help
  | .version => .error .version
  | switch =>
      if arguments.switches.contains switch then misused (.repeatedSwitch switch)
      else return { arguments with switches := arguments.switches ++ [switch] }

/-- A value attached to its option is judged at once. -/
def assign (arguments : Arguments) (slot : Slot) (value : Text) : Reading := do
  settle { ← arguments.settle with pending := some (slot, some value) }

/-- The next argument is the value, unless it looks like an option. -/
def await (arguments : Arguments) (slot : Slot) : Reading := do
  return { ← arguments.settle with pending := some (slot, none) }

def hasFile (arguments : Arguments) : Bool :=
  (arguments.values.lookup .file).isSome || arguments.pending.any (·.1 == .file)

/-- There is one file at most. -/
def position (arguments : Arguments) (argument : Text) : Reading := do
  if arguments.hasFile then misused (.unexpectedArgument argument)
  else return { ← arguments.settle with pending := some (.file, some argument) }

/-- An option by its name, with a value after an equals sign if there is one. -/
def readLong (arguments : Arguments) (body : Text) : Reading :=
  let (name, value?) :=
    match Text.cut? ['='] body with
    | some (name, value) => (name, some value)
    | none => (body, none)
  match Slot.all.find? (·.name? == some name), Switch.all.find? (·.name == name), value? with
  | some slot, _, some value => arguments.assign slot value
  | some slot, _, none => arguments.await slot
  | none, some switch, some value => misused (.unexpectedValue value switch)
  | none, some switch, none => arguments.turnOn switch
  | none, none, _ => misused (.unexpectedArgument ("--".toList ++ name))

/-- A group of letters. The rest of the group after an option with a value is that value, with or
without an equals sign. -/
def readShort (arguments : Arguments) : Text → Reading
  | [] => .ok arguments
  | c :: rest =>
      match Switch.ofLetter? c with
      | some switch => do (← arguments.turnOn switch).readShort rest
      | none =>
          if c = 'o' then
            match rest with
            | [] => arguments.await .output
            | '=' :: value => arguments.assign .output value
            | value => arguments.assign .output value
          else misused (.unexpectedArgument ['-', c])

/-- An argument that does not look like an option. -/
def readFree (arguments : Arguments) (argument : Text) : Reading :=
  match arguments.pending with
  | some (slot, none) => .ok { arguments with pending := some (slot, some argument) }
  | _ => arguments.position argument

def readFrom (arguments : Arguments) : List Text → Reading
  | [] => arguments.settle
  | argument :: rest =>
      match argument with
      | ['-', '-'] => do settle (← rest.foldlM position arguments)
      | '-' :: '-' :: body => do (← arguments.readLong body).readFrom rest
      | '-' :: c :: group => do (← arguments.readShort (c :: group)).readFrom rest
      | argument => do (← arguments.readFree argument).readFrom rest

def read (argv : List Text) : Reading := empty.readFrom argv

def has (arguments : Arguments) (switch : Switch) : Bool := arguments.switches.contains switch

def value? (arguments : Arguments) (slot : Slot) : Option Text := arguments.values.lookup slot

/-- A value from the command line, else from a variable of the environment, else the default. -/
def valueOr (arguments : Arguments) (slot : Slot) (fallback : Option Text) (default : Text) :
    Except Stop Text :=
  match arguments.value? slot, fallback with
  | some value, _ => .ok value
  | none, some [] => .error (.misused (.valueRequired slot))
  | none, some value => .ok value
  | none, none => .ok default

end Arguments

end VoidScript.CommandLine
