import VoidScript.Proofs.Text.Search
import VoidScript.Proofs.Text.Unbroken
import VoidScript.Proofs.Yaml.Number
import VoidScript.Text.Quoted

/-!
Reading quoted text. What stands between the quotes is read character by character, an escape as
the character it stands for.

* `unquote?_flatMap`: if every character is read back from its own escape, so is every text;
* `Quoted.read?_escape`, `Quoted.decode?_encode`: a quoted text is read back;
* `Quoted.encode_unbroken`: and never breaks its line.
-/

namespace VoidScript.Text

/-- Reads one character after the other up to a closing quote, with what follows it. -/
def unquote? (read? : Text → Option (Char × Text)) (s : Text) : Option (Text × Text) :=
  if s.head? = some '\x22' then some ([], s.tail)
  else
    match read? s with
    | some (c, rest) =>
        if rest.length < s.length then
          (unquote? read? rest).map fun (text, rest) => (c :: text, rest)
        else none
    | none => none
  termination_by s.length

theorem unquote?_quote (read? : Text → Option (Char × Text)) (rest : Text) :
    unquote? read? ('\x22' :: rest) = some ([], rest) := by
  rw [unquote?]
  rfl

theorem unquote?_char {read? : Text → Option (Char × Text)} {s rest : Text} {c : Char}
    (inside : s.head? ≠ some '\x22') (h : read? s = some (c, rest))
    (shorter : rest.length < s.length) :
    unquote? read? s = (unquote? read? rest).map fun (text, rest) => (c :: text, rest) := by
  rw [unquote?, if_neg inside, h]
  exact if_pos shorter

/-- An escape that stands for its character whatever follows, and does not look like the end. -/
structure Legible (read? : Text → Option (Char × Text)) (escape : Char → Text) : Prop where
  read (c : Char) (rest : Text) : read? (escape c ++ rest) = some (c, rest)
  head (c : Char) : ∃ first tail, escape c = first :: tail ∧ first ≠ '\x22'

theorem unquote?_flatMap {read? : Text → Option (Char × Text)} {escape : Char → Text}
    (legible : Legible read? escape) (s rest : Text) :
    unquote? read? (s.flatMap escape ++ '\x22' :: rest) = some (s, rest) := by
  induction s with
  | nil => exact unquote?_quote read? rest
  | cons c s ih =>
    obtain ⟨first, tail, he, hf⟩ := legible.head c
    have behind := legible.read c (s.flatMap escape ++ '\x22' :: rest)
    rw [List.flatMap_cons, List.append_assoc, unquote?_char _ behind, ih]
    · rfl
    · simp only [he, List.length_append, List.length_cons]
      omega
    · simp [he, hf]

namespace Quoted

open Yaml.Number (digit? natural? natural?_toDigits digit?_digitChar not_mem_toDigits)

/-- What a letter after a backslash stands for. -/
def meant? : Char → Option Char
  | '0' => some '\x00'
  | 't' => some '\t'
  | 'r' => some '\r'
  | 'n' => some '\n'
  | '\x22' => some '\x22'
  | '\\' => some '\\'
  | _ => none

/-- A code point up to its closing brace. -/
def readCode? (s : Text) : Option (Char × Text) :=
  let (digits, rest) := breakAt '\x7d' s
  (natural? 16 digits).map fun code => (Char.ofNat code, rest)

/-- One character, escaped or not. -/
def read? : Text → Option (Char × Text)
  | [] | ['\\'] => none
  | '\\' :: 'u' :: '\x7b' :: rest => readCode? rest
  | '\\' :: letter :: rest => (meant? letter).map (·, rest)
  | c :: rest => some (c, rest)

theorem readCode?_toDigits (c : Char) (rest : Text) :
    readCode? (Nat.toDigits 16 c.toNat ++ '\x7d' :: rest) = some (c, rest) := by
  have whole : '\x7d' ∉ Nat.toDigits 16 c.toNat :=
    not_mem_toDigits (by decide) (by decide) (by decide) _
  have value : natural? 16 (Nat.toDigits 16 c.toNat) = some c.toNat := by
    simpa using natural?_toDigits id digit?_digitChar 0 c.toNat
  rw [readCode?, breakAt_append whole]
  simp [value]

theorem read?_raw {c : Char} (h : c ≠ '\\') (rest : Text) :
    read? (c :: rest) = some (c, rest) := by
  unfold read?
  split <;> simp_all

theorem read?_escape (c : Char) (rest : Text) : read? (escape c ++ rest) = some (c, rest) := by
  unfold escape
  split_ifs with nul tab ret feed quote backslash visible
  · subst nul; rfl
  · subst tab; rfl
  · subst ret; rfl
  · subst feed; rfl
  · subst quote; rfl
  · subst backslash; rfl
  · exact read?_raw backslash rest
  · have code := readCode?_toDigits c rest
    simpa [codePoint, read?] using code

theorem legible : Legible read? escape where
  read := read?_escape
  head c := by
    unfold escape
    split_ifs with nul tab ret feed quote backslash visible
    any_goals exact ⟨'\\', _, rfl, by decide⟩
    exact ⟨c, [], rfl, quote⟩

/-- The text of which a quoted text is the whole. -/
def decode? : Text → Option Text
  | '\x22' :: inner =>
      match unquote? read? inner with
      | some (text, []) => some text
      | _ => none
  | _ => none

theorem decode?_encode (s : Text) : decode? (encode s) = some s := by
  have inner := unquote?_flatMap legible s []
  simp [encode, decode?, inner]

theorem toDigits_unbroken {base : Nat} (hb : 1 < base) (hb' : base ≤ 16) (n : Nat) :
    Unbroken (Nat.toDigits base n) :=
  ⟨not_mem_toDigits hb hb' (by decide) n, not_mem_toDigits hb hb' (by decide) n⟩

theorem escape_unbroken (c : Char) : Unbroken (escape c) := by
  unfold escape
  split_ifs with nul tab ret feed quote backslash visible
  · simp
  · simp
  · simp
  · simp
  · simp
  · simp
  · simp [ret, feed]
  · have digits : Unbroken (Nat.toDigits 16 c.toNat) := toDigits_unbroken (by decide) (by decide) _
    simp [codePoint, digits]

theorem encode_unbroken (s : Text) : Unbroken (encode s) := by
  have inner : Unbroken (s.flatMap escape) := by
    induction s with
    | nil => exact unbroken_nil
    | cons c s ih => simp [escape_unbroken c, ih]
  simp [encode, inner]

end Quoted

end VoidScript.Text
