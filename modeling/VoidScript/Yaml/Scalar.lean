import VoidScript.Yaml.Number

/-!
Strings as YAML scalars. A text is written plainly when it can be read back as the same string
and in quotes or as a literal block otherwise; lines are never folded.
-/

namespace VoidScript.Yaml

inductive Style
  | plain
  | singleQuoted
  | doubleQuoted
  | literal
  deriving DecidableEq, Repr

namespace Scalar

def isBreak (c : Char) : Bool :=
  c == '\n' || c == '\r' || c == '\u0085' || c == '\u2028' || c == '\u2029'

/-- Characters that may stand unescaped. -/
def isPrintable (c : Char) : Bool :=
  let code := c.toNat
  code == 0x0A || 0x20 ≤ code && code ≤ 0x7E || 0xA0 ≤ code && code ≤ 0xD7FF
    || 0xE000 ≤ code && code ≤ 0xFFFD && code != 0xFEFF || 0x10000 ≤ code

/-- Whether a neighbour, or the end of the text, sets an indicator apart. -/
def separates : Option Char → Bool
  | none => true
  | some c => c == ' ' || c == '\t' || c == '\x00' || isBreak c

/-- Texts that stand for a value other than a string. -/
def isAmbiguous (s : Text) : Bool :=
  s.isEmpty
    || ["null", "Null", "NULL", "~", "true", "True", "TRUE", "false", "False", "FALSE"].any
      (·.toList == s)
    || Number.isInteger s || Number.isFloat s || Number.isPadded s

/-- Some neighbours `a`, `b` in the text satisfy the test. -/
def neighbours (test : Char → Char → Bool) (s : Text) : Bool :=
  (s.zip s.tail).any fun (a, b) => test a b

def spaceBeforeBreak (s : Text) : Bool := neighbours (fun a b => a == ' ' && isBreak b) s

def breakBeforeSpace (s : Text) : Bool := neighbours (fun a b => isBreak a && b == ' ') s

/-- A colon before a separator or at the end would start a value. -/
def endsKey : Text → Bool
  | [] => false
  | c :: rest => c == ':' && separates rest.head? || endsKey rest

/-- A number sign after a separator would start a comment. -/
def startsComment (s : Text) : Bool := neighbours (fun a b => separates (some a) && b == '#') s

/-- Characters that mean something else when a plain scalar starts with them. -/
def indicators : Text :=
  ['#', ',', '[', ']', '\x7b', '\x7d', '&', '*', '!', '|', '>', '\x27', '\x22', '%', '@', '\x60']

def startsWithIndicator : Text → Bool
  | [] => false
  | c :: rest => indicators.contains c || (c == '?' || c == '-') && separates rest.head?

def startsDocument (s : Text) : Bool :=
  "---".toList.isPrefixOf s || "...".toList.isPrefixOf s

def plainAllowed (s : Text) : Bool :=
  !startsDocument s && !startsWithIndicator s && !endsKey s && !startsComment s
    && s.head? != some ' ' && s.getLast? != some ' ' && !s.any isBreak && s.all isPrintable

def singleQuotedAllowed (s : Text) : Bool :=
  !breakBeforeSpace s && !spaceBeforeBreak s && s.all isPrintable

def literalAllowed (s : Text) : Bool :=
  s.getLast? != some ' ' && !spaceBeforeBreak s && s.all isPrintable

/-- The style of a text: a literal block if it has a line feed, plain if it cannot be mistaken,
single quotes otherwise, and double quotes where the wanted style cannot hold the text. -/
def style (s : Text) : Style :=
  if s.contains '\n' then if literalAllowed s then .literal else .doubleQuoted
  else if !isAmbiguous s && plainAllowed s then .plain
  else if singleQuotedAllowed s then .singleQuoted
  else .doubleQuoted

/-- Two spaces in front of a line that continues a value. -/
def indent (atLineStart : Bool) : Text := if atLineStart then [' ', ' '] else []

/-- The inside of single quotes: a quote is written twice, and what follows a break is
indented, the closing quote included. -/
def singleQuotedBody (atLineStart : Bool) : Text → Text
  | [] => indent atLineStart
  | c :: rest =>
      if isBreak c then c :: singleQuotedBody true rest
      else indent atLineStart ++ (if c = '\x27' then [c, c] else [c]) ++ singleQuotedBody false rest

def hexadecimal (width : Nat) (code : Nat) : Text :=
  let digits := (Nat.toDigits 16 code).map Char.toUpper
  List.replicate (width - digits.length) '0' ++ digits

def codeEscape (code : Nat) : Text :=
  if code < 0x100 then ['\\', 'x'] ++ hexadecimal 2 code
  else if code < 0x10000 then ['\\', 'u'] ++ hexadecimal 4 code
  else ['\\', 'U'] ++ hexadecimal 8 code

/-- Characters with an escape of their own. -/
def named : List (Char × Char) :=
  [('\x00', '0'), ('\x07', 'a'), ('\x08', 'b'), ('\t', 't'), ('\n', 'n'), ('\x0b', 'v'),
   ('\x0c', 'f'), ('\r', 'r'), ('\x1b', 'e'), ('\x22', '\x22'), ('\\', '\\'), ('\u0085', 'N'),
   ('\u2028', 'L'), ('\u2029', 'P')]

def escape (c : Char) : Text :=
  match named.lookup c with
  | some letter => ['\\', letter]
  | none => if isPrintable c then [c] else codeEscape c.toNat

/-- The lines of a literal block, each indented unless it is empty. -/
def literalBody (atLineStart : Bool) : Text → Text
  | [] => []
  | c :: rest =>
      if isBreak c then c :: literalBody true rest
      else indent atLineStart ++ c :: literalBody false rest

/-- Says how deep the block is indented, where its own start would mislead, and which of the final
breaks belong to the text. -/
def literalHeader (s : Text) : Text :=
  let depth := if s.head?.any fun c => c == ' ' || isBreak c then ['2'] else []
  let ending :=
    match s.reverse with
    | [] => ['-']
    | [last] => if isBreak last then ['+'] else ['-']
    | last :: before :: _ =>
        if !isBreak last then ['-'] else if isBreak before then ['+'] else []
  ['|'] ++ depth ++ ending

def writeAs (s : Text) : Style → Text
  | .plain => s
  | .singleQuoted => ['\x27'] ++ singleQuotedBody false s ++ ['\x27']
  | .doubleQuoted => ['\x22'] ++ s.flatMap escape ++ ['\x22']
  | .literal => literalHeader s ++ ['\n'] ++ literalBody true s

def write (s : Text) : Text := writeAs s (style s)

/-- A literal block whose text ends with a break has ended its last line. -/
def endsLine (s : Text) : Bool := style s == .literal && s.getLast?.any isBreak

/-- One entry of a block mapping, through the end of its last line. -/
def field (key : Text) (value : Text) : Text :=
  key ++ [':', ' '] ++ write value ++ (if endsLine value then [] else ['\n'])

end Scalar

end VoidScript.Yaml
