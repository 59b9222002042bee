import VoidScript.Text

/-!
Texts that a YAML reader would take for numbers: integers of at most 128 bits in four bases,
decimal numbers that a double can hold, and the words for infinity and not-a-number.
-/

namespace VoidScript.Yaml.Number

def isDigit (c : Char) : Bool := '0' ≤ c && c ≤ '9'

def digit? (c : Char) : Option Nat :=
  if isDigit c then some (c.toNat - '0'.toNat)
  else if 'a' ≤ c ∧ c ≤ 'f' then some (c.toNat - 'a'.toNat + 10)
  else if 'A' ≤ c ∧ c ≤ 'F' then some (c.toNat - 'A'.toNat + 10)
  else none

/-- The number whose digits are those of `n` and one more. -/
def append? (base : Nat) (n : Nat) (c : Char) : Option Nat := do
  let d ← digit? c
  if d < base then some (n * base + d) else none

/-- Reads one or more digits of the base. -/
def natural? (base : Nat) (s : Text) : Option Nat :=
  if s.isEmpty then none else s.foldlM (append? base) 0

/-- The text without one leading sign, and whether that sign was a minus. -/
def unsigned : Text → Bool × Text
  | '-' :: rest => (true, rest)
  | '+' :: rest => (false, rest)
  | s => (false, s)

/-- Decimal digits, or digits of the base that a marker names. -/
def magnitude? : Text → Option Nat
  | '0' :: 'x' :: digits => natural? 16 digits
  | '0' :: 'o' :: digits => natural? 8 digits
  | '0' :: 'b' :: digits => natural? 2 digits
  | digits => natural? 10 digits

def isInteger (s : Text) : Bool :=
  let (negative, rest) := unsigned s
  (magnitude? rest).any fun n => if negative then n ≤ Nat.pow 2 127 else n < Nat.pow 2 128

/-- A decimal number as digits and a power of ten. -/
structure Decimal where
  digits : Nat
  exponent : Int

def exponent? : Text → Option Int
  | [] => some 0
  | c :: rest =>
      if c = 'e' ∨ c = 'E' then
        let (negative, digits) := unsigned rest
        (natural? 10 digits).map fun n => if negative then -(n : Int) else n
      else none

/-- Reads digits with an optional point among or around them and an optional exponent. -/
def decimal? (s : Text) : Option Decimal :=
  let whole := s.takeWhile isDigit
  let (fraction, rest) :=
    match s.dropWhile isDigit with
    | '.' :: rest => (rest.takeWhile isDigit, rest.dropWhile isDigit)
    | rest => ([], rest)
  match natural? 10 (whole ++ fraction), exponent? rest with
  | some digits, some exponent => some ⟨digits, exponent - fraction.length⟩
  | _, _ => none

/-- From here on a number is rounded to infinity: half a unit in the last place above the largest
double. -/
def overflow : Nat := Nat.pow 2 1024 - Nat.pow 2 970

/-- Whether the nearest double is finite. Only a number of 309 places needs to be compared. -/
def Decimal.isFinite (d : Decimal) : Bool :=
  let places : Int := (Text.decimal d.digits).length + d.exponent
  if d.digits = 0 ∨ places < 309 then true
  else if 309 < places then false
  else d.digits * Nat.pow 10 d.exponent.toNat < overflow * Nat.pow 10 (-d.exponent).toNat

def infinities : List Text := [".inf".toList, ".Inf".toList, ".INF".toList]

def notNumbers : List Text := [".nan".toList, ".NaN".toList, ".NAN".toList]

def isFloat (s : Text) : Bool :=
  let (_, rest) := unsigned s
  infinities.contains rest || notNumbers.contains s || (decimal? rest).any Decimal.isFinite

/-- A zero and further digits, which some readers take for an octal number. -/
def isPadded (s : Text) : Bool :=
  match (unsigned s).2 with
  | '0' :: digits => !digits.isEmpty && digits.all isDigit
  | _ => false

end VoidScript.Yaml.Number
