import VoidScript.Yaml.Number

/-!
Hexadecimal numerals. The digits of a number are read back as the number, in either case and
behind any number of zeros.
-/

namespace VoidScript.Yaml.Number

theorem digit?_digitChar : ∀ d < 16, digit? d.digitChar = some d := by decide

theorem digit?_toUpper_digitChar : ∀ d < 16, digit? d.digitChar.toUpper = some d := by decide

theorem append?_of_digit? {base n d : Nat} {c : Char} (hd : digit? c = some d) (h : d < base) :
    append? base n c = some (n * base + d) := by
  simp [append?, hd, h]

/-- Zeros in front change nothing. -/
theorem foldlM_zeros (base : Nat) (hb : 0 < base) (k : Nat) (s : Text) :
    (List.replicate k '0' ++ s).foldlM (append? base) 0 = s.foldlM (append? base) 0 := by
  induction k with
  | zero => rfl
  | succ k ih =>
    have zero : append? base 0 '0' = some 0 := by
      rw [append?_of_digit? (d := 0) (by decide) hb]
      simp
    rw [List.replicate_succ, List.cons_append, List.foldlM_cons, zero]
    exact ih

/-- `write` is what is done to each digit, such as writing it in upper case. -/
theorem foldlM_toDigits (write : Char → Char)
    (legible : ∀ d < 16, digit? (write d.digitChar) = some d) (n : Nat) :
    ((Nat.toDigits 16 n).map write).foldlM (append? 16) 0 = some n := by
  induction n using Nat.strongRecOn with
  | ind n ih =>
    by_cases small : n < 16
    · rw [Nat.toDigits_of_lt_base small]
      simp [append?_of_digit? (legible n small) small]
    · have large : 16 ≤ n := by omega
      have last : n % 16 < 16 := by omega
      have front := ih (n / 16) (by omega)
      rw [Nat.toDigits_of_base_le (by decide) large, List.map_append, List.foldlM_append, front]
      have total : n / 16 * 16 + n % 16 = n := by omega
      simp [append?_of_digit? (legible _ last) last, total]

theorem natural?_toDigits (write : Char → Char)
    (legible : ∀ d < 16, digit? (write d.digitChar) = some d) (k n : Nat) :
    natural? 16 (List.replicate k '0' ++ (Nat.toDigits 16 n).map write) = some n := by
  rw [natural?, if_neg (by simp), foldlM_zeros 16 (by decide), foldlM_toDigits write legible]

theorem forall_mem_toDigits {base : Nat} (hb : 1 < base) {p : Char → Prop}
    (each : ∀ d < base, p d.digitChar) (n : Nat) : ∀ c ∈ Nat.toDigits base n, p c := by
  induction n using Nat.strongRecOn with
  | ind n ih =>
    by_cases small : n < base
    · rw [Nat.toDigits_of_lt_base small]
      simpa using each n small
    · have front := ih (n / base) (Nat.div_lt_self (by omega) hb)
      have last := each (n % base) (Nat.mod_lt n (by omega))
      rw [Nat.toDigits_of_base_le hb (by omega)]
      intro c hc
      rcases List.mem_append.mp hc with inside | final
      · exact front c inside
      · rwa [List.mem_singleton.mp final]

theorem not_mem_toDigits {base : Nat} (hb : 1 < base) (hb' : base ≤ 16) {c : Char}
    (hc : digit? c = none) (n : Nat) : c ∉ Nat.toDigits base n := by
  intro inside
  have legible : ∀ d < base, digit? d.digitChar ≠ none := by
    intro d hd
    rw [digit?_digitChar d (by omega)]
    simp
  exact forall_mem_toDigits (p := fun c => digit? c ≠ none) hb legible n c inside hc

end VoidScript.Yaml.Number
