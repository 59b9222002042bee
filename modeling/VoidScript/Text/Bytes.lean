import VoidScript.Text

/-!
Text as the bytes of its UTF-8 form, which is what files hold.
-/

namespace VoidScript

abbrev Bytes := List UInt8

namespace Text

def bytes (s : Text) : Bytes := (String.ofList s).toUTF8.data.toList

/-- The text that the bytes are the form of. Most sequences of bytes are the form of none. -/
def ofBytes? (bytes : Bytes) : Option Text :=
  (String.fromUTF8? ⟨bytes.toArray⟩).map String.toList

def byteLength : Text → Nat
  | [] => 0
  | c :: rest => c.utf8Size + byteLength rest

theorem ofBytes?_bytes (s : Text) : ofBytes? (bytes s) = some s := by
  have valid : (List.utf8Encode s).IsValidUTF8 := ⟨s, rfl⟩
  have same : String.fromUTF8 (List.utf8Encode s) valid = String.ofList s := by
    apply String.toByteArray_inj.1
    simp [String.fromUTF8]
  simp only [ofBytes?, bytes, String.fromUTF8?, Option.map_eq_some_iff]
  exact ⟨String.ofList s, by simp [valid, same], by simp⟩

end Text

end VoidScript
