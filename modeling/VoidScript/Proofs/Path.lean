import Mathlib.Data.Fintype.EquivFin
import VoidScript.Path
import VoidScript.Proofs.Text.Unbroken

/-!
Where paths lead.

* `destination_join`: a relative name continues where its directory leads, an absolute one does not;
* `destination_join_extension`: a file name with an extension leads to a name that has it;
* `stays_iff`: a file lies below its directory, whatever the directory is, exactly if its name is
  relative and never climbs above its start.
-/

namespace VoidScript.Path

/-! ## Parts -/

theorem parts_append_slash (s t : Path) : parts (s ++ '/' :: t) = parts s ++ parts t := by
  simp [parts, Text.splitOn_append_cons]

theorem parts_of_endsWithSlash {dir : Path} (h : endsWithSlash dir = true) (name : Path) :
    parts (dir ++ name) = parts dir ++ parts name := by
  have last : dir.getLast? = some '/' := by simpa [endsWithSlash] using h
  obtain ⟨front, rfl⟩ := List.getLast?_eq_some_iff.mp last
  have empty : parts [] = [] := rfl
  rw [List.append_assoc, List.singleton_append, parts_append_slash, parts_append_slash, empty,
    List.append_nil]

theorem parts_join {dir name : Path} (relative : isAbsolute name = false) :
    parts (join dir name) = parts dir ++ parts name := by
  unfold join
  rw [if_neg (by simp [relative])]
  split
  · rename_i h
    rcases Bool.or_eq_true_iff.mp h with empty | slash
    · obtain rfl : dir = [] := List.isEmpty_iff.mp empty
      rfl
    · exact parts_of_endsWithSlash slash name
  · exact parts_append_slash dir name

theorem isAbsolute_join {dir name : Path} (relative : isAbsolute name = false) :
    isAbsolute (join dir name) = isAbsolute dir := by
  unfold join
  rw [if_neg (by simp [relative])]
  cases dir with
  | nil => exact relative
  | cons c dir => split <;> rfl

theorem join_absolute {name : Path} (absolute : isAbsolute name = true) (dir : Path) :
    join dir name = name := if_pos absolute

theorem isAbsolute_join_of_isAbsolute {dir : Path} (absolute : isAbsolute dir = true)
    (name : Path) : isAbsolute (join dir name) = true := by
  cases h : isAbsolute name with
  | false => rw [isAbsolute_join h, absolute]
  | true => rw [join_absolute h, h]

theorem destination_join {dir name : Path} (relative : isAbsolute name = false)
    (current : Location) :
    destination current (join dir name) =
      (parts name).foldl Part.step (destination current dir) := by
  rw [destination, parts_join relative, isAbsolute_join relative, List.foldl_append]
  rfl

theorem destination_absolute {path : Path} (absolute : isAbsolute path = true)
    (current : Location) : destination current path = destination [] path := by
  simp [destination, absolute]

/-! ## Extensions -/

/-- What is appended without a separator goes to the last part. -/
theorem splitOn_append_of_not_mem {separator : Char} {t : Text} (h : separator ∉ t) (s : Text) :
    ∃ front last, Text.splitOn separator (s ++ t) = front ++ [last ++ t] := by
  induction s with
  | nil => exact ⟨[], [], Text.splitOn_of_not_mem h⟩
  | cons c s ih =>
    obtain ⟨front, last, hs⟩ := ih
    rw [List.cons_append, Text.splitOn, hs]
    split
    · exact ⟨[] :: front, last, rfl⟩
    · cases front with
      | nil => exact ⟨[], c :: last, rfl⟩
      | cons part front => exact ⟨(c :: part) :: front, last, rfl⟩

/-- An extension of three characters or more makes the last part a name. -/
theorem parts_append_extension {extension : Text} (h : '/' ∉ extension)
    (long : 2 < extension.length) (name : Path) :
    ∃ front stem, parts (name ++ extension) = front ++ [.name (stem ++ extension)] := by
  obtain ⟨front, stem, hs⟩ := splitOn_append_of_not_mem h name
  have size : 2 < (stem ++ extension).length := by
    rw [List.length_append]
    omega
  have some_text : stem ++ extension ≠ [] := List.ne_nil_of_length_pos (by omega)
  have not_here : stem ++ extension ≠ ['.'] := fun he => by
    have := congrArg List.length he
    simp only [List.length_cons, List.length_nil] at this
    omega
  have not_up : stem ++ extension ≠ ['.', '.'] := fun he => by
    have := congrArg List.length he
    simp only [List.length_cons, List.length_nil] at this
    omega
  refine ⟨(front.filter (!·.isEmpty)).map Part.ofText, stem, ?_⟩
  rw [parts, hs, List.filter_append, List.map_append]
  simp [some_text, Part.ofText, not_here, not_up]

/-- A file with an extension has it wherever it lies. -/
theorem destination_join_extension {extension : Text} (h : '/' ∉ extension)
    (long : 2 < extension.length) (current : Location) (dir name : Path) :
    ∃ location stem,
      destination current (join dir (name ++ extension)) = location ++ [stem ++ extension] := by
  obtain ⟨front, stem, hp⟩ := parts_append_extension h long name
  cases absolute : isAbsolute (name ++ extension) with
  | true =>
    refine ⟨front.foldl Part.step [], stem, ?_⟩
    rw [join_absolute absolute, destination, hp, absolute, List.foldl_append]
    rfl
  | false =>
    refine ⟨front.foldl Part.step (destination current dir), stem, ?_⟩
    rw [destination_join absolute, hp, List.foldl_append]
    rfl

/-! ## Staying below a directory -/

/-- The location is inside the directory, at any depth. -/
def Below (directory location : Location) : Prop := directory <+: location ∧ directory ≠ location

instance (directory location : Location) : Decidable (Below directory location) :=
  inferInstanceAs (Decidable (_ ∧ _))

/-- Whether a walk that starts at some depth goes up beyond the start. -/
def climbs : Nat → List Part → Bool
  | _, [] => false
  | depth, .here :: rest => climbs depth rest
  | 0, .up :: _ => true
  | depth + 1, .up :: rest => climbs depth rest
  | depth, .name _ :: rest => climbs (depth + 1) rest

theorem climbs_name (depth : Nat) (text : Text) (rest : List Part) :
    climbs depth (.name text :: rest) = climbs (depth + 1) rest := by
  cases depth <;> rfl

/-- Whether a file of this name lies in the directory with which the name is joined. -/
def stays (file : Path) : Bool := !isAbsolute file && !climbs 0 (parts file)

theorem foldl_step_append {parts : List Part} (inner : Location)
    (h : climbs inner.length parts = false) (base : Location) :
    parts.foldl Part.step (base ++ inner) = base ++ parts.foldl Part.step inner := by
  induction parts generalizing inner with
  | nil => rfl
  | cons part parts ih =>
    cases part with
    | here => exact ih inner h
    | up =>
      cases inner using List.reverseRecOn with
      | nil => cases h
      | append_singleton inner name =>
        rw [List.length_append] at h
        have higher : climbs inner.length parts = false := h
        simpa [Part.step, ← List.append_assoc] using ih inner higher
    | name text =>
      have deeper : climbs (inner ++ [text]).length parts = false := by
        simpa [climbs_name] using h
      simpa [Part.step] using ih (inner ++ [text]) deeper

theorem destination_of_stays {file : Path} (h : stays file = true) (current : Location)
    (dir : Path) :
    destination current (join dir file) = destination current dir ++ destination [] file := by
  obtain ⟨relative, level⟩ : isAbsolute file = false ∧ climbs 0 (parts file) = false := by
    simpa [stays] using h
  have inside := foldl_step_append [] level (destination current dir)
  have start : destination [] file = (parts file).foldl Part.step [] := by
    rw [destination, relative]
    rfl
  rw [destination_join relative, start, ← inside, List.append_nil]

/-- A name that is not on the way is not entered again. -/
theorem foldl_step_head_ne {parts : List Part} {name : Text} (absent : .name name ∉ parts)
    {location : Location} (h : location.head? ≠ some name) :
    (parts.foldl Part.step location).head? ≠ some name := by
  induction parts generalizing location with
  | nil => exact h
  | cons part parts ih =>
    obtain ⟨other, absent⟩ : .name name ≠ part ∧ .name name ∉ parts := by simpa using absent
    apply ih absent
    cases location with
    | nil => cases part <;> simp_all [Part.step, eq_comm]
    | cons first rest =>
      have hf : first ≠ name := by simpa using h
      cases part with
      | here => exact h
      | up => cases rest <;> simp [Part.step, hf]
      | name text => simp [Part.step, hf]

theorem foldl_step_of_climbs {parts : List Part} {name : Text} (absent : .name name ∉ parts)
    (inner : Location) (h : climbs inner.length parts = true) :
    (parts.foldl Part.step (name :: inner)).head? ≠ some name := by
  induction parts generalizing inner with
  | nil => cases h
  | cons part parts ih =>
    obtain ⟨-, absent'⟩ : .name name ≠ part ∧ .name name ∉ parts := by simpa using absent
    cases part with
    | here => exact ih absent' inner h
    | up =>
      cases inner using List.reverseRecOn with
      | nil => exact foldl_step_head_ne absent' (by simp [Part.step])
      | append_singleton inner last =>
        rw [List.length_append] at h
        have higher : climbs inner.length parts = true := h
        have up : (name :: inner ++ [last]).dropLast = name :: inner := List.dropLast_concat
        change (parts.foldl Part.step (name :: inner ++ [last]).dropLast).head? ≠ some name
        rw [up]
        exact ih absent' inner higher
    | name text =>
      have deeper : climbs (inner ++ [text]).length parts = true := by
        simpa [climbs_name] using h
      exact ih absent' (inner ++ [text]) deeper

/-- A directory from which an absolute name, or one that climbs, leads out. -/
theorem exists_not_below {file : Path} (h : stays file = false) :
    ∃ current, ¬ Below (destination current ['.']) (destination current (join ['.'] file)) := by
  cases absolute : isAbsolute file with
  | true =>
    refine ⟨destination [] file ++ [[]], fun below => ?_⟩
    have shorter := below.1.length_le
    rw [join_absolute absolute, destination_absolute absolute (destination [] file ++ [[]])]
      at shorter
    change (destination [] file ++ [[]]).length ≤ (destination [] file).length at shorter
    rw [List.length_append, List.length_singleton] at shorter
    omega
  | false =>
    have climb : climbs 0 (parts file) = true := by simpa [stays, absolute] using h
    obtain ⟨name, absent⟩ : ∃ name, .name name ∉ parts file := by
      obtain ⟨name, fresh⟩ := Infinite.exists_notMem_finset ((parts file).map Part.text).toFinset
      refine ⟨name, fun hm => fresh ?_⟩
      simpa using ⟨_, hm, rfl⟩
    refine ⟨[name], fun below => ?_⟩
    rw [destination_join absolute] at below
    obtain ⟨tail, ht⟩ := below.1
    have back : ((parts file).foldl Part.step [name]).head? = some name :=
      congrArg List.head? ht.symm
    exact foldl_step_of_climbs absent [] climb back

theorem stays_iff {file : Path} (h : destination [] file ≠ []) :
    stays file = true ↔
      ∀ current dir, Below (destination current dir) (destination current (join dir file)) := by
  constructor
  · intro stay current dir
    rw [destination_of_stays stay]
    exact ⟨List.prefix_append _ _, fun he => h (by simpa using he)⟩
  · intro below
    cases stay : stays file with
    | true => rfl
    | false =>
      obtain ⟨current, outside⟩ := exists_not_below stay
      exact absurd (below current ['.']) outside

end VoidScript.Path
