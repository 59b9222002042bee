/-!
Text as a list of characters, and searching it for a key.
-/

namespace VoidScript

/-- Source text, generated text, file names and messages. -/
abbrev Text := List Char

namespace Text

/-- What follows `key` in a text that starts with it. -/
def after? : Text → Text → Option Text
  | [], s => some s
  | _ :: _, [] => none
  | k :: key, c :: s => if k = c then after? key s else none

theorem after?_eq_some_iff {key s rest : Text} : after? key s = some rest ↔ s = key ++ rest := by
  fun_induction after? key s with
  | case1 s => simp
  | case2 => simp
  | case3 key c s ih => simpa using ih
  | case4 k key c s hne =>
    simp only [reduceCtorEq, List.cons_append, List.cons.injEq, false_iff, not_and]
    exact fun hc => absurd hc.symm hne

/-- What stands before and after the first occurrence of `key`. -/
def cut? (key : Text) : Text → Option (Text × Text)
  | [] => if key.isEmpty then some ([], []) else none
  | c :: rest =>
      match after? key (c :: rest) with
      | some after => some ([], after)
      | none => (cut? key rest).map fun (before, after) => (c :: before, after)

def occurs (key : Text) (s : Text) : Bool := (cut? key s).isSome

/-- The text up to the first occurrence of `key`, all of it when there is none. -/
def upTo (key : Text) (s : Text) : Text :=
  match cut? key s with
  | some (before, _) => before
  | none => s

/-- Drops the longest end whose characters all satisfy `p`. -/
def dropEndWhile (p : Char → Bool) (s : Text) : Text := (s.reverse.dropWhile p).reverse

/-- Drops from both ends while `p` holds. -/
def strip (p : Char → Bool) (s : Text) : Text := dropEndWhile p (s.dropWhile p)

/-- The parts between separators, so one more than there are separators. -/
def splitOn (separator : Char) : Text → List Text
  | [] => [[]]
  | c :: rest =>
      if c = separator then [] :: splitOn separator rest
      else
        match splitOn separator rest with
        | [] => [[c]]
        | part :: parts => (c :: part) :: parts

def decimal (n : Nat) : Text := Nat.toDigits 10 n

def signedDecimal : Int → Text
  | .ofNat n => decimal n
  | .negSucc n => '-' :: decimal (n + 1)

/-- Pads with spaces on the left up to `width`. -/
def padStart (width : Nat) (s : Text) : Text := List.replicate (width - s.length) ' ' ++ s

/-- Every line with a line feed after it. -/
def unlines (lines : List Text) : Text := lines.flatMap (· ++ ['\n'])

end Text

end VoidScript
