import VoidScript.Text.Blank

/-!
Plugin metadata: the name, version and author that header lines give. A header starts in the
first column with its key, and the last header for a key wins.
-/

namespace VoidScript

structure Metadata where
  name : Text
  version : Option Text
  author : Option Text
  deriving DecidableEq, Repr

namespace Metadata

inductive Key
  | name
  | version
  | author
  deriving DecidableEq, Repr

def Key.text : Key → Text
  | .name => "name:".toList
  | .version => "version:".toList
  | .author => "author:".toList

/-- A plugin without a `name:` header. -/
def unnamed : Metadata := ⟨"UnnamedPlugin".toList, none, none⟩

/-- What follows the key, up to the next occurrence of the same key, without outer blanks and then
without outer quotes. -/
def Key.value? (key : Key) (line : Text) : Option Text :=
  (Text.after? key.text line).map fun after =>
    Text.strip (· == '\x22') (Text.trim (Text.upTo key.text after))

/-- What the line above the headers starts with. -/
def marker : Text := "#info".toList

/-- The key and value of a header line. No two keys start the same line. -/
def header? (line : Text) : Option (Key × Text) :=
  if marker.isPrefixOf line then none
  else [Key.name, .version, .author].findSome? fun key => (key.value? line).map (key, ·)

def set (metadata : Metadata) : Key → Text → Metadata
  | .name, value => { metadata with name := value }
  | .version, value => { metadata with version := some value }
  | .author, value => { metadata with author := some value }

def record (metadata : Metadata) (line : Text) : Metadata :=
  match header? line with
  | some (key, value) => metadata.set key value
  | none => metadata

def ofLines (lines : List Text) : Metadata := lines.foldl record unnamed

end Metadata

end VoidScript
