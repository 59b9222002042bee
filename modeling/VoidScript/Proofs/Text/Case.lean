import VoidScript.Proofs.Text.Unbroken
import VoidScript.Text.Case

/-!
Changing the case of a word brings no line break into it: no character but a line break itself is
mapped to one.
-/

namespace VoidScript.Text

theorem unbroken_iff_forall {s : Text} : Unbroken s ↔ ∀ c ∈ s, Unbroken [c] := by
  induction s with
  | nil => simp
  | cons c s ih => simp [ih]

namespace Case

theorem toNat_ofNat (code : Nat) :
    (Char.ofNat code).toNat = code ∨ (Char.ofNat code).toNat = 0 := by
  by_cases valid : code.isValidChar
  · have hc : Char.ofNat code = Char.ofNatAux code valid := dif_pos valid
    rw [hc]
    exact Or.inl rfl
  · have hc : Char.ofNat code = '\x00' := dif_neg valid
    rw [hc]
    exact Or.inr rfl

theorem ofNat_unbroken {code : Nat} (h : 13 < code) : Unbroken [Char.ofNat code] := by
  have ne (c : Char) (hc : 0 < c.toNat ∧ c.toNat ≤ 13) : Char.ofNat code ≠ c := by
    rintro rfl
    rcases toNat_ofNat code with he | he <;> omega
  simp [ne '\r' (by decide), ne '\n' (by decide)]

/-- Every code point that the mapping gives lies behind the line breaks. -/
def Mapping.High (mapping : Mapping) : Prop :=
  (∀ entry ∈ mapping.several, ∀ code ∈ entry.2, 13 < code) ∧ ∀ run ∈ mapping.runs, 13 < run.target

instance (mapping : Mapping) : Decidable mapping.High := inferInstanceAs (Decidable (_ ∧ _))

theorem lowerMapping_high : lowerMapping.High := by decide +kernel

theorem upperMapping_high : upperMapping.High := by decide +kernel

theorem codes_unbroken {codes : List Nat} (h : ∀ code ∈ codes, 13 < code) :
    Unbroken (codes.map Char.ofNat) := by
  rw [unbroken_iff_forall]
  intro c hc
  obtain ⟨code, hm, rfl⟩ := List.mem_map.mp hc
  exact ofNat_unbroken (h code hm)

theorem lookup_unbroken {table : List (Nat × List Nat)}
    (high : ∀ entry ∈ table, ∀ code ∈ entry.2, 13 < code) {key : Nat} {codes : List Nat}
    (h : table.lookup key = some codes) : Unbroken (codes.map Char.ofNat) := by
  obtain ⟨before, after, rfl, -⟩ := List.lookup_eq_some_iff.mp h
  exact codes_unbroken (high (key, codes) (by simp))

theorem Mapping.apply_unbroken {mapping : Mapping} (high : mapping.High) {c : Char}
    (hc : Unbroken [c]) : Unbroken (mapping.apply c) := by
  unfold Mapping.apply
  split
  · exact lookup_unbroken high.1 ‹_›
  · split
    · rename_i code hf
      obtain ⟨run, hr, hm⟩ := List.exists_of_findSome?_eq_some hf
      have ht := high.2 run hr
      unfold Run.map? at hm
      split at hm
      · obtain rfl := Option.some.inj hm
        exact ofNat_unbroken (by omega)
      · cases hm
    · exact hc

theorem lower_unbroken {c : Char} (hc : Unbroken [c]) : Unbroken (lower c) :=
  Mapping.apply_unbroken lowerMapping_high hc

theorem upper_unbroken {c : Char} (hc : Unbroken [c]) : Unbroken (upper c) :=
  Mapping.apply_unbroken upperMapping_high hc

theorem titled_high : ∀ entry ∈ titled, ∀ code ∈ entry.2, 13 < code := by decide

theorem title_unbroken {c : Char} (hc : Unbroken [c]) : Unbroken (title c) := by
  unfold title
  split
  · have kept : c.toNat ≤ c.toNat ||| 8 := Nat.left_le_or
    exact ofNat_unbroken (by omega)
  · split
    · exact lookup_unbroken titled_high ‹_›
    · exact upper_unbroken hc

theorem lowerFrom_unbroken {word : Text} (h : Unbroken word) (before : Text) :
    Unbroken (lowerFrom before word) := by
  induction word generalizing before with
  | nil => exact unbroken_nil
  | cons c after ih =>
    obtain ⟨hc, ha⟩ := unbroken_cons.mp h
    have first : Unbroken (lowerBetween before c after) := by
      unfold lowerBetween
      split
      · decide
      · exact lower_unbroken (by simp [hc])
    exact unbroken_append.mpr ⟨first, ih ha (c :: before)⟩

theorem capitalize_unbroken {word : Text} (h : Unbroken word) : Unbroken (capitalize word) := by
  cases word with
  | nil => exact unbroken_nil
  | cons c rest =>
    have rest_lower := (lowerFrom_unbroken h []).of_subset (List.drop_subset (lower c).length _)
    exact unbroken_append.mpr ⟨title_unbroken (by simp [unbroken_cons.mp h]), rest_lower⟩

end Case

end VoidScript.Text
