import VoidScript.Text

/-!
Searching a text for a key or a separator.

* `cut?_eq_some_iff`: the cut is at the first place where the key stands;
* `cut?_eq_none_iff`: there is none exactly if the key is no part of the text;
* `cut?_of_cut?`: the place depends on nothing after the key;
* `not_isInfix_upTo`: what stands before the place holds no key;
* `cut?_eq_some_iff_of_not_mem`: for a key that cannot overlap itself, this determines the place;
* `breakAt_append`: a text without the separator ends where the separator follows it;
* `run_exact`: a run of characters of a class ends where another one follows it.
-/

namespace VoidScript.Text

theorem cut?_eq_some_iff {key s before after : Text} :
    cut? key s = some (before, after) ↔
      s = before ++ (key ++ after) ∧ ∀ x y, s = x ++ (key ++ y) → before.length ≤ x.length := by
  fun_induction cut? key s generalizing before with
  | case1 hkey =>
    obtain rfl : key = [] := List.isEmpty_iff.mp hkey
    simp only [List.nil_append, Option.some.injEq, Prod.mk.injEq]
    constructor
    · rintro ⟨rfl, rfl⟩; simp
    · rintro ⟨h, -⟩
      obtain ⟨rfl, rfl⟩ := List.append_eq_nil_iff.mp h.symm
      exact ⟨rfl, rfl⟩
  | case2 hkey =>
    simp only [reduceCtorEq, false_iff, not_and]
    intro h
    simp_all
  | case3 c rest found h =>
    have hs : c :: rest = key ++ found := after?_eq_some_iff.mp h
    simp only [Option.some.injEq, Prod.mk.injEq]
    constructor
    · rintro ⟨rfl, rfl⟩; exact ⟨hs, by simp⟩
    · rintro ⟨heq, least⟩
      obtain rfl : before = [] := List.eq_nil_of_length_eq_zero (Nat.le_zero.mp (least [] found hs))
      rw [hs, List.nil_append] at heq
      exact ⟨rfl, List.append_cancel_left heq⟩
  | case4 c rest h ih =>
    have notHere : ∀ y, c :: rest ≠ [] ++ (key ++ y) := by
      intro y hy
      rw [List.nil_append, ← after?_eq_some_iff, h] at hy
      cases hy
    constructor
    · intro hm
      obtain ⟨⟨b, a⟩, hb, he⟩ := Option.map_eq_some_iff.mp hm
      obtain ⟨rfl, rfl⟩ : c :: b = before ∧ a = after := by simpa using he
      obtain ⟨hrest, least⟩ := ih.mp hb
      refine ⟨by rw [hrest]; rfl, ?_⟩
      intro x y hxy
      cases x with
      | nil => exact absurd hxy (notHere y)
      | cons d x =>
        have := least x y (List.cons.inj hxy).2
        simpa using this
    · rintro ⟨heq, least⟩
      cases before with
      | nil => exact absurd heq (notHere after)
      | cons d before =>
        obtain ⟨rfl, hrest⟩ := List.cons.inj heq
        have hb := ih.mpr ⟨hrest, fun x y hxy => by
          simpa using least (c :: x) y (by rw [hxy]; rfl)⟩
        simp [hb]

theorem cut?_eq_none_iff {key s : Text} : cut? key s = none ↔ ¬ key <:+: s := by
  fun_induction cut? key s with
  | case1 hkey => simp [List.isEmpty_iff.mp hkey]
  | case2 hkey => simpa using hkey
  | case3 c rest found h =>
    have hs : c :: rest = key ++ found := after?_eq_some_iff.mp h
    rw [hs]
    exact iff_of_false (by simp) (not_not_intro (List.prefix_append key found).isInfix)
  | case4 c rest h ih =>
    have notHere : ¬ key <+: c :: rest := by
      rintro ⟨y, hy⟩
      rw [after?_eq_some_iff.mpr hy.symm] at h
      cases h
    rw [Option.map_eq_none_iff, ih, List.infix_cons_iff, not_or]
    exact ⟨fun hr => ⟨notHere, hr⟩, fun hr => hr.2⟩

/-- A place before the first one would end before the key there ends. -/
theorem cut?_of_cut? {key s before after : Text} (h : cut? key s = some (before, after))
    (after' : Text) : cut? key (before ++ (key ++ after')) = some (before, after') := by
  obtain ⟨rfl, least⟩ := cut?_eq_some_iff.mp h
  refine cut?_eq_some_iff.mpr ⟨rfl, ?_⟩
  intro x y hxy
  by_cases hx : before.length ≤ x.length
  · exact hx
  · have hx' : x ++ key <+: before ++ (key ++ after') := ⟨y, by rw [hxy, List.append_assoc]⟩
    have hb : before ++ key <+: before ++ (key ++ after') := ⟨after', List.append_assoc ..⟩
    obtain ⟨z, hz⟩ := List.prefix_of_prefix_length_le hx' hb (by
      simp only [List.length_append]; omega)
    apply least x (z ++ after)
    rw [← List.append_assoc, ← hz]
    simp

theorem exists_cut? {key s : Text} (h : key <:+: s) :
    ∃ before after, cut? key s = some (before, after) := by
  obtain ⟨⟨before, after⟩, found⟩ : ∃ found, cut? key s = some found := by
    apply Option.ne_none_iff_exists'.mp
    intro absent
    exact cut?_eq_none_iff.mp absent h
  exact ⟨before, after, found⟩

/-- Where there is a place, text behind the whole moves none. -/
theorem cut?_append_of_isInfix {key s : Text} (h : key <:+: s) (text : Text) :
    ∃ before after, cut? key s = some (before, after) ∧
      cut? key (s ++ text) = some (before, after ++ text) := by
  obtain ⟨before, after, found⟩ := exists_cut? h
  have split : s = before ++ (key ++ after) := (cut?_eq_some_iff.mp found).1
  have longer : s ++ text = before ++ (key ++ (after ++ text)) := by simp [split]
  refine ⟨before, after, found, ?_⟩
  rw [longer]
  exact cut?_of_cut? found (after ++ text)

theorem upTo_isPrefix (key s : Text) : upTo key s <+: s := by
  unfold upTo
  split
  · rename_i before after h
    exact ⟨key ++ after, (cut?_eq_some_iff.mp h).1.symm⟩
  · exact List.prefix_refl s

/-- Before the first place there is none. -/
theorem not_isInfix_upTo {key : Text} (hne : key ≠ []) (s : Text) : ¬ key <:+: upTo key s := by
  unfold upTo
  split
  · rename_i before after h
    rintro ⟨front, back, inside⟩
    obtain ⟨split, least⟩ := cut?_eq_some_iff.mp h
    have earlier : s = front ++ (key ++ (back ++ (key ++ after))) := by
      rw [split, ← inside]
      simp
    have first := least _ _ earlier
    have size := congrArg List.length inside
    have some_text := List.length_pos_iff.mpr hne
    simp only [List.length_append] at size
    omega
  · rename_i h
    exact cut?_eq_none_iff.mp h

theorem upTo_eq_self {key s : Text} (h : ¬ key <:+: s) : upTo key s = s := by
  rw [upTo, cut?_eq_none_iff.mpr h]

/-- A key whose first character does not come up again in it never overlaps itself, so the first
place is the only one with no key before it. -/
theorem cut?_eq_some_iff_of_not_mem {c : Char} {key s before after : Text} (hc : c ∉ key) :
    cut? (c :: key) s = some (before, after) ↔
      s = before ++ (c :: key ++ after) ∧ ¬ c :: key <:+: before := by
  constructor
  · intro h
    have absent := not_isInfix_upTo (List.cons_ne_nil c key) s
    rw [upTo, h] at absent
    exact ⟨(cut?_eq_some_iff.mp h).1, absent⟩
  · rintro ⟨rfl, absent⟩
    have inside : c :: key <:+: before ++ (c :: key ++ after) :=
      ⟨before, after, List.append_assoc ..⟩
    obtain ⟨first, tail, found⟩ := exists_cut? inside
    obtain ⟨split, least⟩ := cut?_eq_some_iff.mp found
    obtain ⟨between, rfl⟩ : first <+: before :=
      List.prefix_of_prefix_length_le ⟨_, split.symm⟩ (List.prefix_append before _)
        (least before after rfl)
    rw [List.append_assoc, List.append_cancel_left_eq] at split
    cases between with
    | nil =>
      obtain rfl : after = tail := by simpa using split
      rw [found, List.append_nil]
    | cons d between =>
      -- A key that starts before `before` ends is a part of it, or holds the first character again.
      exfalso
      obtain ⟨rfl, overlap⟩ : d = c ∧ between ++ (c :: key ++ after) = key ++ tail := by
        simpa using split
      rcases List.append_eq_append_iff.mp overlap with ⟨more, rfl, hm⟩ | ⟨more, rfl, -⟩
      · cases more with
        | nil => exact absent ⟨first, [], by simp⟩
        | cons e more =>
          obtain ⟨rfl, -⟩ := List.cons.inj hm
          exact hc (by simp)
      · exact absent ⟨first, more, by simp⟩

/-- A character that the key does not have is no part of it in a longer text. -/
theorem isInfix_of_isInfix_cons {key s : Text} {c : Char} (hne : key ≠ []) (hc : c ∉ key)
    (h : key <:+: c :: s) : key <:+: s := by
  rcases List.infix_cons_iff.mp h with start | inside
  · obtain ⟨d, rest, rfl⟩ := List.exists_cons_of_ne_nil hne
    obtain ⟨rfl, -⟩ := List.cons_prefix_cons.mp start
    exact absurd List.mem_cons_self hc
  · exact inside

theorem isInfix_of_isInfix_concat {key s : Text} {c : Char} (hne : key ≠ []) (hc : c ∉ key)
    (h : key <:+: s ++ [c]) : key <:+: s := by
  have reversed : key.reverse <:+: c :: s.reverse := by
    simpa using List.reverse_infix.mpr h
  have inside := isInfix_of_isInfix_cons (by simpa using hne) (by simpa using hc) reversed
  exact List.reverse_infix.mp inside

/-- A character that the front does not hold stands behind it. -/
theorem exists_behind {front s left right : Text} {c : Char} (hc : c ∉ front)
    (h : front ++ s = left ++ c :: right) :
    ∃ more, left = front ++ more ∧ s = more ++ c :: right := by
  rcases List.append_eq_append_iff.mp h with ⟨more, hl, hs⟩ | ⟨more, rfl, hs⟩
  · exact ⟨more, hl, hs⟩
  · cases more with
    | nil => exact ⟨[], by simp, by simpa using hs.symm⟩
    | cons d more =>
      obtain ⟨rfl, -⟩ := List.cons.inj hs
      exact absurd (by simp) hc

/-- A character that the end does not hold stands before it. -/
theorem exists_before {s back left right : Text} {c : Char} (hc : c ∉ back)
    (h : s ++ back = left ++ c :: right) :
    ∃ more, right = more ++ back ∧ s = left ++ c :: more := by
  rcases List.append_eq_append_iff.mp h with ⟨more, -, rfl⟩ | ⟨more, rfl, hs⟩
  · exact absurd (by simp) hc
  · cases more with
    | nil =>
      obtain rfl : c :: right = back := hs
      exact absurd (by simp) hc
    | cons d more =>
      obtain ⟨rfl, rfl⟩ := List.cons.inj hs
      exact ⟨more, rfl, rfl⟩

/-- What stands before the first separator, and what follows it. -/
def breakAt (separator : Char) (s : Text) : Text × Text :=
  (s.takeWhile (· ≠ separator), (s.dropWhile (· ≠ separator)).tail)

theorem breakAt_append {separator : Char} {front : Text} (h : separator ∉ front) (rest : Text) :
    breakAt separator (front ++ separator :: rest) = (front, rest) := by
  have inside : ∀ c ∈ front, decide (c ≠ separator) = true := by
    intro c hc
    have other : c ≠ separator := fun he => h (he ▸ hc)
    simpa using other
  rw [breakAt, List.takeWhile_append_of_pos inside, List.dropWhile_append_of_pos inside]
  simp

/-! ## Runs of a class -/

/-- Where a run of characters of a class ends. -/
theorem run_exact {p : Char → Bool} {run rest : Text} (inside : ∀ c ∈ run, p c = true)
    (ends : ∀ c, rest.head? = some c → p c = false) :
    (run ++ rest).takeWhile p = run ∧ (run ++ rest).dropWhile p = rest := by
  rw [List.takeWhile_append_of_pos inside, List.dropWhile_append_of_pos inside]
  cases rest with
  | nil => simp
  | cons c rest => simp [ends c rfl]

end VoidScript.Text
