import VoidScript.Proofs.Text.Search
import VoidScript.Proofs.Text.Unbroken

/-!
Text of blanks, around other text.

* `skipBlanks_append`, `exists_skipBlanks`: skipping takes away leading blanks, as many as there are;
* `strip_padded`, `trim_padded`: stripping takes away all that is stripped around a text;
* `upTo_append`: blanks behind a text complete no key that has none in it.
-/

namespace VoidScript.Text

/-- Nothing but blanks. -/
def Blank (s : Text) : Prop := ∀ c ∈ s, isBlank c = true

instance (s : Text) : Decidable (Blank s) := List.decidableBAll _ s

/-- No blank at all. -/
def Solid (s : Text) : Prop := ∀ c ∈ s, isBlank c = false

instance (s : Text) : Decidable (Solid s) := List.decidableBAll _ s

/-! ## Leading blanks -/

theorem skipBlanks_append {w : Text} (h : Blank w) (s : Text) :
    skipBlanks (w ++ s) = skipBlanks s := List.dropWhile_append_of_pos h

theorem skipBlanks_cons {c : Char} (h : isBlank c = false) (s : Text) :
    skipBlanks (c :: s) = c :: s := by
  simp [skipBlanks, h]

theorem exists_skipBlanks (s : Text) : ∃ w, Blank w ∧ s = w ++ skipBlanks s :=
  ⟨s.takeWhile isBlank, fun _ => List.mem_takeWhile_imp, List.takeWhile_append_dropWhile.symm⟩

/-- Blanks end at the first mark that is none. -/
theorem blanks_unique {blanks blanks' rest rest' : Text} {mark : Char} (hb : Blank blanks)
    (hb' : Blank blanks') (hm : isBlank mark = false)
    (h : blanks ++ mark :: rest = blanks' ++ mark :: rest') : blanks = blanks' ∧ rest = rest' := by
  have ends (tail : Text) : ∀ c, (mark :: tail).head? = some c → isBlank c = false := by
    rintro _ ⟨⟩
    exact hm
  obtain ⟨taken, dropped⟩ := run_exact hb (ends rest)
  obtain ⟨taken', dropped'⟩ := run_exact hb' (ends rest')
  rw [h] at taken dropped
  exact ⟨taken.symm.trans taken', (List.cons.inj (dropped.symm.trans dropped')).2⟩

/-! ## Blanks around a text -/

theorem dropEndWhile_append {p : Char → Bool} {w : Text} (h : ∀ c ∈ w, p c = true) (s : Text) :
    dropEndWhile p (s ++ w) = dropEndWhile p s := by
  have reversed : ∀ c ∈ w.reverse, p c = true := fun c hc => h c (List.mem_reverse.mp hc)
  rw [dropEndWhile, List.reverse_append, List.dropWhile_append_of_pos reversed]
  rfl

theorem strip_append {p : Char → Bool} {w : Text} (h : ∀ c ∈ w, p c = true) (s : Text) :
    strip p (s ++ w) = strip p s := by
  by_cases all : ∀ c ∈ s, p c = true
  · have both : ∀ c ∈ s ++ w, p c = true := fun c hc => (List.mem_append.mp hc).elim (all c) (h c)
    rw [strip, List.dropWhile_eq_nil_iff.mpr both, strip, List.dropWhile_eq_nil_iff.mpr all]
  · -- Something of `s` is left in front of `w`, so `w` is dropped from the end.
    have rest : (s ++ w).dropWhile p = s.dropWhile p ++ w := by
      rw [List.dropWhile_append, if_neg]
      simpa [List.dropWhile_eq_nil_iff] using all
    rw [strip, rest, dropEndWhile_append h]
    rfl

theorem strip_padded {p : Char → Bool} {before after : Text} (hb : ∀ c ∈ before, p c = true)
    (ha : ∀ c ∈ after, p c = true) (s : Text) : strip p (before ++ (s ++ after)) = strip p s := by
  have front : strip p (before ++ (s ++ after)) = strip p (s ++ after) := by
    rw [strip, List.dropWhile_append_of_pos hb]
    rfl
  rw [front, strip_append ha]

theorem trim_append {w : Text} (h : Blank w) (s : Text) : trim (s ++ w) = trim s := strip_append h s

theorem trim_padded {before after : Text} (hb : Blank before) (ha : Blank after) (s : Text) :
    trim (before ++ (s ++ after)) = trim s := strip_padded hb ha s

/-- Trimming does not reach a text without blanks at the front, and goes on behind it. -/
theorem trim_solid_append {key : Text} (hk : Solid key) (hne : key ≠ []) (rest : Text) :
    trim (key ++ rest) = key ++ dropEndWhile isBlank rest := by
  have front : (key ++ rest).dropWhile isBlank = key ++ rest := by
    obtain ⟨c, key, rfl⟩ := List.exists_cons_of_ne_nil hne
    simp [hk c List.mem_cons_self]
  have back : key.reverse.dropWhile isBlank = key.reverse := by
    obtain ⟨c, tail, hr⟩ := List.exists_cons_of_ne_nil (List.reverse_ne_nil_iff.mpr hne)
    have hc : c ∈ key := List.mem_reverse.mp (by simp [hr])
    simp [hr, hk c hc]
  rw [trim, strip, front, dropEndWhile, List.reverse_append, List.dropWhile_append, back]
  split
  · rename_i blank
    simp [dropEndWhile, List.isEmpty_iff.mp blank]
  · simp [dropEndWhile]

/-! ## Keys and the blanks behind a text -/

/-- A key without blanks that stands in front of a text with blanks behind it ends before them. -/
theorem append_eq_append_blank {key rest s w : Text} (hk : Solid key) (hw : Blank w)
    (h : key ++ rest = s ++ w) : ∃ t, s = key ++ t ∧ rest = t ++ w := by
  rcases List.append_eq_append_iff.mp h with ⟨t, hs, hr⟩ | ⟨t, hkey, hwr⟩
  · exact ⟨t, hs, hr⟩
  · -- `t` is a part of the key and a part of the blanks.
    have empty : t = [] := by
      refine List.eq_nil_iff_forall_not_mem.mpr fun c hc => ?_
      have solid : isBlank c = false := hk c (by rw [hkey]; exact List.mem_append_right s hc)
      have blank : isBlank c = true := hw c (by rw [hwr]; exact List.mem_append_left rest hc)
      rw [solid] at blank
      cases blank
    subst empty
    exact ⟨[], by simpa using hkey.symm, by simpa using hwr.symm⟩

theorem after?_append {key w : Text} (hk : Solid key) (hw : Blank w) (s : Text) :
    after? key (s ++ w) = (after? key s).map (· ++ w) := by
  cases h : after? key s with
  | some rest =>
    obtain rfl := after?_eq_some_iff.mp h
    exact after?_eq_some_iff.mpr (List.append_assoc ..)
  | none =>
    refine Option.eq_none_iff_forall_ne_some.mpr fun rest hr => ?_
    obtain ⟨t, hs, -⟩ := append_eq_append_blank hk hw (after?_eq_some_iff.mp hr).symm
    rw [after?_eq_some_iff.mpr hs] at h
    cases h

theorem cut?_append {key w : Text} (hk : Solid key) (hne : key ≠ []) (hw : Blank w) (s : Text) :
    cut? key (s ++ w) = (cut? key s).map fun (before, after) => (before, after ++ w) := by
  induction s with
  | nil =>
    have absent : cut? key w = none := by
      refine cut?_eq_none_iff.mpr ?_
      rintro ⟨front, back, h⟩
      obtain ⟨c, key, rfl⟩ := List.exists_cons_of_ne_nil hne
      have solid := hk c List.mem_cons_self
      rw [hw c (by simp [← h])] at solid
      cases solid
    simp [absent, cut?, hne]
  | cons c s ih =>
    rw [List.cons_append, cut?, ← List.cons_append, after?_append hk hw, cut?, ih]
    cases after? key (c :: s) with
    | some after => rfl
    | none => cases cut? key s <;> rfl

/-- What stands before a key is what stood before it, or all of it and the blanks. -/
theorem upTo_append {key w : Text} (hk : Solid key) (hne : key ≠ []) (hw : Blank w) (s : Text) :
    upTo key (s ++ w) = upTo key s ∨ upTo key (s ++ w) = upTo key s ++ w := by
  rw [upTo, upTo, cut?_append hk hne hw]
  cases cut? key s with
  | some found => exact .inl rfl
  | none => exact .inr rfl

end VoidScript.Text
