import VoidScript.Text

/-!
Paths as they are written, and how they divide into parts. Nothing here looks at a file system.
-/

namespace VoidScript

/-- A path as it was written, never normalised. -/
abbrev Path := Text

/-- The names from the root down to an entry. -/
abbrev Location := List Text

namespace Path

inductive Part
  | here
  | up
  | name (text : Text)
  deriving DecidableEq, Repr

def Part.ofText (s : Text) : Part :=
  if s = ['.'] then .here else if s = ['.', '.'] then .up else .name s

def Part.text : Part → Text
  | .here => ['.']
  | .up => ['.', '.']
  | .name text => text

def isAbsolute (path : Path) : Bool := path.head? == some '/'

/-- The parts between slashes. Repeated slashes count once. -/
def parts (path : Path) : List Part :=
  ((Text.splitOn '/' path).filter (!·.isEmpty)).map Part.ofText

/-- Where a part leads from a location. Above the root is the root. -/
def Part.step (location : Location) : Part → Location
  | .here => location
  | .up => location.dropLast
  | .name text => location ++ [text]

/-- Where a path leads from a location, with `.` and `..` resolved. -/
def destination (current : Location) (path : Path) : Location :=
  (parts path).foldl Part.step (if isAbsolute path then [] else current)

/-- Says that the path must name a directory. -/
def endsWithSlash (path : Path) : Bool := path.getLast? == some '/'

/-- The path of a name in a directory. An absolute name stays as it is. -/
def join (dir name : Path) : Path :=
  if isAbsolute name then name
  else if dir.isEmpty || endsWithSlash dir then dir ++ name
  else dir ++ '/' :: name

/-- The parts without those that change nothing: `.` counts only at the start of a relative
path. -/
def components (path : Path) : List Part :=
  match parts path with
  | [] => []
  | first :: rest =>
      let rest := rest.filter (· != .here)
      if first = .here ∧ isAbsolute path then rest else first :: rest

def ofComponents (absolute : Bool) (components : List Part) : Path :=
  (if absolute then ['/'] else []) ++ List.intercalate ['/'] (components.map Part.text)

/-- Takes the last component away again and again, from components in reverse. -/
def above : List Part → List (List Part)
  | [] => []
  | _ :: rest => rest.reverse :: above rest

/-- A path and the directories above it, the nearest first. The last one is the root or, for a
relative path, the empty path. -/
def ancestors (path : Path) : List Path :=
  path :: (above (components path).reverse).map (ofComponents (isAbsolute path))

/-- A single name, possibly with slashes after it. -/
def isSimple (path : Path) : Bool := !isAbsolute path && (components path).length ≤ 1

end Path

end VoidScript
