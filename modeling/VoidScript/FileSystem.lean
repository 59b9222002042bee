import VoidScript.Path
import VoidScript.Text.Bytes

/-!
A file system without links: which entries exist, and what looking up, reading, writing and
creating directories do. An operation that fails changes nothing.
-/

namespace VoidScript

structure File where
  content : Bytes
  executable : Bool
  deriving DecidableEq

inductive Entry
  | directory
  | file (file : File)
  deriving DecidableEq

/-- Why an operation on files failed. -/
inductive Fault
  | missing
  | denied
  | alreadyExists
  | notDirectory
  | isDirectory
  | nameTooLong
  | notExecutable
  | nulInPath
  | nulInArgument
  | notText
  deriving DecidableEq, Repr

def Fault.message : Fault → Text
  | .missing => "No such file or directory (os error 2)".toList
  | .notExecutable => "Exec format error (os error 8)".toList
  | .denied => "Permission denied (os error 13)".toList
  | .alreadyExists => "File exists (os error 17)".toList
  | .notDirectory => "Not a directory (os error 20)".toList
  | .isDirectory => "Is a directory (os error 21)".toList
  | .nameTooLong => "File name too long (os error 36)".toList
  | .nulInPath => "file name contained an unexpected NUL byte".toList
  | .nulInArgument => "nul byte found in provided data".toList
  | .notText => "stream did not contain valid UTF-8".toList

structure FileSystem where
  /-- Where relative paths start. -/
  current : Location
  entries : List (Location × Entry)

namespace FileSystem

/-- The entry at a location. The root is always a directory. -/
def lookup (files : FileSystem) : Location → Option Entry
  | [] => some .directory
  | location => files.entries.lookup location

def isDirectoryAt (files : FileSystem) (location : Location) : Bool :=
  match files.lookup location with
  | some .directory => true
  | _ => false

/-- Puts an entry at a location, in the place of what was there. -/
def put (files : FileSystem) (location : Location) (entry : Entry) : FileSystem :=
  { files with entries := (location, entry) :: files.entries.filter (·.1 != location) }

theorem lookup_put_self (files : FileSystem) {location : Location} (entry : Entry)
    (h : location ≠ []) : (files.put location entry).lookup location = some entry := by
  cases location with
  | nil => exact absurd rfl h
  | cons name names => simp [lookup, put]

theorem lookup_filter_ne (entries : List (Location × Entry)) {a b : Location} (h : b ≠ a) :
    (entries.filter (·.1 != a)).lookup b = entries.lookup b := by
  induction entries with
  | nil => rfl
  | cons first rest ih =>
    obtain ⟨location, entry⟩ := first
    by_cases hl : location = a
    · subst hl
      have hb : (b == location) = false := by simpa using h
      simp [List.lookup_cons, hb, ih]
    · simp [hl, List.lookup_cons, ih]

theorem lookup_put_of_ne (files : FileSystem) {a b : Location} (entry : Entry) (h : b ≠ a) :
    (files.put a entry).lookup b = files.lookup b := by
  cases b with
  | nil => rfl
  | cons name names =>
    have hb : (name :: names == a) = false := by simpa using h
    simp only [lookup, put, List.lookup_cons, hb, lookup_filter_ne _ h]

def longestName : Nat := 255

def longestPath : Nat := 4095

/-- One step of following a path. -/
def enter (files : FileSystem) (location : Location) (part : Path.Part) :
    Except Fault Location :=
  if !files.isDirectoryAt location then .error .notDirectory
  else
    match part with
    | .name name =>
        if longestName < Text.byteLength name then .error .nameTooLong
        else if (files.lookup (location ++ [name])).isSome then .ok (location ++ [name])
        else .error .missing
    | part => .ok (part.step location)

def follow (files : FileSystem) (location : Location) (parts : List Path.Part) :
    Except Fault Location :=
  parts.foldlM files.enter location

/-- Refuses a path that cannot name anything. -/
def nameable (path : Path) : Except Fault Unit :=
  if path.contains '\x00' then .error .nulInPath
  else if path.isEmpty then .error .missing
  else if longestPath < Text.byteLength path then .error .nameTooLong
  else .ok ()

def start (files : FileSystem) (path : Path) : Location :=
  if Path.isAbsolute path then [] else files.current

/-- The location of an existing entry. -/
def resolve (files : FileSystem) (path : Path) : Except Fault Location := do
  nameable path
  let location ← files.follow (files.start path) (Path.parts path)
  if Path.endsWithSlash path && !files.isDirectoryAt location then .error .notDirectory
  else return location

/-- The same files, seen from another directory. -/
def changeDirectory (files : FileSystem) (dir : Path) : Except Fault FileSystem := do
  let location ← files.resolve dir
  if files.isDirectoryAt location then return { files with current := location }
  else .error .notDirectory

def pathExists (files : FileSystem) (path : Path) : Bool := (files.resolve path).isOk

def isDirectory (files : FileSystem) (path : Path) : Bool :=
  match files.resolve path with
  | .ok location => files.isDirectoryAt location
  | .error _ => false

def read (files : FileSystem) (path : Path) : Except Fault Text := do
  let location ← files.resolve path
  match files.lookup location with
  | some (.file file) =>
      match Text.ofBytes? file.content with
      | some text => return text
      | none => .error .notText
  | _ => .error .isDirectory

/-- The directory in which the last part of a path is a name, and that name. The parts before
must exist. The last part itself may be missing; it has no name if it is `.`, `..` or the root. -/
def place (files : FileSystem) (path : Path) : Except Fault (Location × Option Text) := do
  nameable path
  let parts := Path.parts path
  let location ← files.follow (files.start path) parts.dropLast
  if !files.isDirectoryAt location then .error .notDirectory
  else
    match parts.getLast? with
    | some (.name name) =>
        if longestName < Text.byteLength name then .error .nameTooLong
        else return (location, some name)
    | _ => return (location, none)

/-- Creates or overwrites a file. An overwritten file keeps its permission to be executed. -/
def write (files : FileSystem) (path : Path) (content : Text) : Except Fault FileSystem := do
  match ← files.place path with
  | (location, some name) =>
      if Path.endsWithSlash path then .error .isDirectory
      else
        let target := location ++ [name]
        match files.lookup target with
        | some .directory => .error .isDirectory
        | some (.file file) =>
            return files.put target (.file { file with content := Text.bytes content })
        | none => return files.put target (.file ⟨Text.bytes content, false⟩)
  | (_, none) => .error .isDirectory

def makeDirectory (files : FileSystem) (path : Path) : Except Fault FileSystem := do
  match ← files.place path with
  | (location, some name) =>
      if (files.lookup (location ++ [name])).isSome then .error .alreadyExists
      else return files.put (location ++ [name]) .directory
  | (_, none) => .error .alreadyExists

/-- Creates the first of the paths; where its parent is missing, the next ones are created before
it. Directories stay created when a later one fails. -/
def makeDirectories (files : FileSystem) : List Path → Except Fault Unit × FileSystem
  | [] => (.error .missing, files)
  | path :: above =>
      if path.isEmpty then (.ok (), files)
      else
        match files.makeDirectory path with
        | .ok files => (.ok (), files)
        | .error .missing =>
            match files.makeDirectories above with
            | (.ok _, files) =>
                match files.makeDirectory path with
                | .ok files => (.ok (), files)
                | .error fault =>
                    if files.isDirectory path then (.ok (), files) else (.error fault, files)
            | failed => failed
        | .error fault => if files.isDirectory path then (.ok (), files) else (.error fault, files)

/-- Makes sure that a directory exists, with all directories on the way to it. -/
def ensureDirectory (files : FileSystem) (path : Path) : Except Fault Unit × FileSystem :=
  if files.pathExists path then (.ok (), files) else files.makeDirectories (Path.ancestors path)

/-- The entries that are not what they were before. -/
def changesSince (files before : FileSystem) : List (Location × Entry) :=
  files.entries.filter fun (location, entry) => before.lookup location != some entry

/-- By the code points of the names, so that a directory stands directly before its content. -/
def listingOrder (a b : Location) : Bool := !decide (b < a)

/-- All entries below a directory, with their locations inside it. -/
def below (files : FileSystem) (directory : Location) : List (Location × Entry) :=
  let inside := files.entries.filterMap fun (location, entry) =>
    match directory.isPrefixOf? location with
    | some [] => none
    | some rest => some (rest, entry)
    | none => none
  inside.mergeSort fun a b => listingOrder a.1 b.1

end FileSystem

end VoidScript
