import VoidScript.Text.Bytes

/-!
Cutting a text at a byte offset. The text is held as UTF-8, so an offset may lie beyond its end or
inside a character; the length of a part at the front never does (`divide?_append`).
-/

namespace VoidScript.Text

theorem bytes_append (s t : Text) : bytes (s ++ t) = bytes s ++ bytes t := by
  simp [bytes, String.ofList_append]

theorem byteLength_append (s t : Text) : byteLength (s ++ t) = byteLength s + byteLength t := by
  induction s with
  | nil => simp [byteLength]
  | cons c s ih => simp only [List.cons_append, byteLength, ih]; omega

theorem length_bytes (s : Text) : (bytes s).length = byteLength s := by
  induction s with
  | nil => rfl
  | cons c s ih =>
    rw [← List.singleton_append, bytes_append, List.length_append, ih]
    simp [bytes, byteLength, List.utf8Encode_singleton]

/-- The parts before and after a byte offset. Both are texts only if the offset is not beyond the
end and not inside a character. -/
def divide? (offset : Nat) (s : Text) : Option (Text × Text) :=
  if offset ≤ (bytes s).length then do
    let before ← ofBytes? ((bytes s).take offset)
    let after ← ofBytes? ((bytes s).drop offset)
    return (before, after)
  else none

theorem divide?_append (s t : Text) : divide? (byteLength s) (s ++ t) = some (s, t) := by
  have hl : byteLength s ≤ (bytes (s ++ t)).length := by
    rw [length_bytes, byteLength_append]; omega
  simp only [divide?, hl, ↓reduceIte]
  rw [bytes_append, ← length_bytes, List.take_left, List.drop_left]
  simp [ofBytes?_bytes]

end VoidScript.Text
