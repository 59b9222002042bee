import VoidScript.Text.Case.Mapping

/-!
Changing the case of words. Lower-casing looks at the whole word for one letter only: a capital
sigma that ends a word becomes the final small sigma.
-/

namespace VoidScript.Text.Case

def isCased (c : Char) : Bool := cased.holds c

def isIgnorable (c : Char) : Bool := ignorable.holds c

def lower (c : Char) : Text := lowerMapping.apply c

def upper (c : Char) : Text := upperMapping.apply c

def capitalSigma : Char := Char.ofNat 0x03A3

def finalSigma : Char := Char.ofNat 0x03C2

/-- Whether the first character that is not skipped is a cased letter. -/
def meetsCased (s : Text) : Bool :=
  match s.dropWhile isIgnorable with
  | c :: _ => isCased c
  | [] => false

/-- The lower case of `c` between the text before it, nearest character first, and the text
after it. -/
def lowerBetween (before : Text) (c : Char) (after : Text) : Text :=
  if c = capitalSigma ∧ meetsCased before = true ∧ meetsCased after = false then [finalSigma]
  else lower c

def lowerFrom (before : Text) : Text → Text
  | [] => []
  | c :: after => lowerBetween before c after ++ lowerFrom (c :: before) after

def lowerWord (word : Text) : Text := lowerFrom [] word

/-- Characters whose title case is not their upper case, apart from the Greek letters with a
subscript iota. -/
def titled : List (Nat × List Nat) :=
  [(0x00DF, [0x53, 0x73]), (0x01C4, [0x01C5]), (0x01C5, [0x01C5]), (0x01C6, [0x01C5]),
   (0x01C7, [0x01C8]), (0x01C8, [0x01C8]), (0x01C9, [0x01C8]), (0x01CA, [0x01CB]),
   (0x01CB, [0x01CB]), (0x01CC, [0x01CB]), (0x01F1, [0x01F2]), (0x01F2, [0x01F2]),
   (0x01F3, [0x01F2]), (0x0587, [0x0535, 0x0582]), (0x1FB2, [0x1FBA, 0x0345]),
   (0x1FB3, [0x1FBC]), (0x1FB4, [0x0386, 0x0345]), (0x1FB7, [0x0391, 0x0342, 0x0345]),
   (0x1FBC, [0x1FBC]), (0x1FC2, [0x1FCA, 0x0345]), (0x1FC3, [0x1FCC]),
   (0x1FC4, [0x0389, 0x0345]), (0x1FC7, [0x0397, 0x0342, 0x0345]), (0x1FCC, [0x1FCC]),
   (0x1FF2, [0x1FFA, 0x0345]), (0x1FF3, [0x1FFC]), (0x1FF4, [0x038F, 0x0345]),
   (0x1FF7, [0x03A9, 0x0342, 0x0345]), (0x1FFC, [0x1FFC]), (0xFB00, [0x46, 0x66]),
   (0xFB01, [0x46, 0x69]), (0xFB02, [0x46, 0x6C]), (0xFB03, [0x46, 0x66, 0x69]),
   (0xFB04, [0x46, 0x66, 0x6C]), (0xFB05, [0x53, 0x74]), (0xFB06, [0x53, 0x74]),
   (0xFB13, [0x0544, 0x0576]), (0xFB14, [0x0544, 0x0565]), (0xFB15, [0x0544, 0x056B]),
   (0xFB16, [0x054E, 0x0576]), (0xFB17, [0x0544, 0x056D])]

/-- The title case of one character. The Greek letters with a subscript iota stand in blocks of
sixteen, eight small ones and then the eight title case forms in the same order. -/
def title (c : Char) : Text :=
  if 0x1F80 ≤ c.toNat ∧ c.toNat ≤ 0x1FAF then [Char.ofNat (c.toNat ||| 8)]
  else
    match titled.lookup c.toNat with
    | some codes => codes.map Char.ofNat
    | none => upper c

/-- The word in lower case, with its first character in title case instead. The first character
stands after nothing, so its lower case is the same alone and in the word. -/
def capitalize : Text → Text
  | [] => []
  | c :: rest => title c ++ (lowerWord (c :: rest)).drop (lower c).length

end VoidScript.Text.Case
