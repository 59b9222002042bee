import VoidScript.FileSystem
import VoidScript.Proofs.Path

/-!
What operations on files do, said once for each.

* `follow_ok`, `follow_directories`: a path that can be followed leads to its destination, through
  directories only;
* `Changes`: how operations change entries, location by location; `Changes.resolve` says that none
  of them takes away what a path leads to;
* `write_changes`, `read_of_write`: writing changes the destination of its path only, and what was
  written is read back;
* `ensureDirectory_changes`, `ensureDirectory_ok`: making sure of a directory adds directories on
  the way to it only, and if it succeeds the directory is there.
-/

namespace VoidScript

theorem bind_eq_ok {m : Except ε α} {next : α → Except ε β} {value : β} :
    (m >>= next) = .ok value ↔ ∃ x, m = .ok x ∧ next x = .ok value := by
  cases m with
  | error e => exact ⟨nofun, nofun⟩
  | ok x => exact ⟨fun h => ⟨x, rfl, h⟩, fun ⟨_, hx, h⟩ => by cases hx; exact h⟩

namespace FileSystem

open VoidScript.Path (Part parts destination)

/-! ## Following a path -/

theorem isDirectoryAt_iff {files : FileSystem} {location : Location} :
    files.isDirectoryAt location = true ↔ files.lookup location = some .directory := by
  unfold isDirectoryAt
  split <;> simp_all

/-- A step leads on from a directory, to something that exists. -/
theorem enter_eq_ok_iff {files : FileSystem} {location next : Location} {part : Part} :
    files.enter location part = .ok next ↔
      files.isDirectoryAt location = true ∧ next = part.step location ∧
        ∀ name, part = .name name →
          Text.byteLength name ≤ longestName ∧ (files.lookup (location ++ [name])).isSome := by
  unfold enter
  cases hd : files.isDirectoryAt location with
  | false => simp
  | true =>
    cases part with
    | here | up =>
      constructor
      · intro h
        exact ⟨rfl, (Except.ok.inj h).symm, nofun⟩
      · rintro ⟨-, rfl, -⟩
        rfl
    | name name =>
      rw [if_neg (by simp)]
      dsimp only
      constructor
      · intro h
        split_ifs at h with long present
        refine ⟨rfl, (Except.ok.inj h).symm, ?_⟩
        rintro _ ⟨rfl⟩
        exact ⟨by omega, present⟩
      · rintro ⟨-, rfl, named⟩
        obtain ⟨short, present⟩ := named name rfl
        rw [if_neg (by omega), if_pos present]
        rfl

theorem follow_cons {files : FileSystem} {location target : Location} {part : Part}
    {rest : List Part} :
    files.follow location (part :: rest) = .ok target ↔
      ∃ next, files.enter location part = .ok next ∧ files.follow next rest = .ok target := by
  rw [follow, List.foldlM_cons]
  exact bind_eq_ok

theorem follow_append {files : FileSystem} {location target : Location} {front rest : List Part} :
    files.follow location (front ++ rest) = .ok target ↔
      ∃ middle, files.follow location front = .ok middle ∧
        files.follow middle rest = .ok target := by
  rw [follow, List.foldlM_append]
  exact bind_eq_ok

theorem follow_singleton {files : FileSystem} {location target : Location} {part : Part} :
    files.follow location [part] = .ok target ↔ files.enter location part = .ok target := by
  rw [follow_cons]
  constructor
  · rintro ⟨next, he, hf⟩
    obtain rfl : next = target := Except.ok.inj hf
    exact he
  · intro he
    exact ⟨target, he, rfl⟩

theorem follow_ok {files : FileSystem} {location target : Location} {parts : List Part}
    (h : files.follow location parts = .ok target) : target = parts.foldl Part.step location := by
  induction parts generalizing location with
  | nil => exact (Except.ok.inj h).symm
  | cons part parts ih =>
    obtain ⟨next, he, hf⟩ := follow_cons.mp h
    obtain ⟨-, rfl, -⟩ := enter_eq_ok_iff.mp he
    exact ih hf

/-- Every location that is passed through is a directory. -/
theorem follow_directories {files : FileSystem} {location target : Location}
    {front rest : List Part} (h : files.follow location (front ++ rest) = .ok target)
    (onward : rest ≠ []) : files.isDirectoryAt (front.foldl Part.step location) = true := by
  obtain ⟨middle, hm, hr⟩ := follow_append.mp h
  obtain ⟨part, rest, rfl⟩ := List.exists_cons_of_ne_nil onward
  obtain ⟨next, he, -⟩ := follow_cons.mp hr
  rw [← follow_ok hm]
  exact (enter_eq_ok_iff.mp he).1

/-! ## How entries change -/

/-- How one entry may change where directories may be made and files written. -/
inductive Change (made written : List Location) (location : Location) :
    Option Entry → Option Entry → Prop
  | same (entry : Option Entry) : Change made written location entry entry
  | directory (new : location ∈ made) : Change made written location none (some .directory)
  | file {old : Option Entry} (file : File) (target : location ∈ written)
      (free : old ≠ some .directory) : Change made written location old (some (.file file))

namespace Change

variable {made written : List Location} {location : Location} {old new : Option Entry}

theorem trans {a b c : Option Entry} (hab : Change made written location a b)
    (hbc : Change made written location b c) : Change made written location a c := by
  cases hbc with
  | same => exact hab
  | directory new =>
    cases hab with
    | same => exact .directory new
  | file file target free =>
    refine .file file target ?_
    rintro rfl
    cases hab with
    | same => exact free rfl
    | file _ _ occupied => exact occupied rfl

theorem mono {made' written' : List Location} (change : Change made written location old new)
    (hm : made ⊆ made') (hw : written ⊆ written') : Change made' written' location old new := by
  cases change with
  | same => exact .same _
  | directory new => exact .directory (hm new)
  | file file target free => exact .file file (hw target) free

theorem keeps_directory (change : Change made written location (some .directory) new) :
    new = some .directory := by
  cases change with
  | same => rfl
  | file _ _ free => exact absurd rfl free

theorem keeps_some (change : Change made written location old new) (h : old.isSome = true) :
    new.isSome = true := by
  cases change with
  | same => exact h
  | directory | file => rfl

/-- Only writing touches a file. -/
theorem keeps_file {file : File} (change : Change made written location (some (.file file)) new)
    (hw : location ∉ written) : new = some (.file file) := by
  cases change with
  | same => rfl
  | file _ target => exact absurd target hw

end Change

/-- Directories were made and files written at some of these locations, and nothing else changed. -/
structure Changes (made written : List Location) (before after : FileSystem) : Prop where
  current : after.current = before.current
  entry (location : Location) :
    Change made written location (before.lookup location) (after.lookup location)

namespace Changes

variable {made written : List Location} {before after : FileSystem}

theorem refl (files : FileSystem) : Changes made written files files :=
  ⟨rfl, fun _ => .same _⟩

theorem trans {a b c : FileSystem} (hab : Changes made written a b)
    (hbc : Changes made written b c) : Changes made written a c :=
  ⟨hbc.current.trans hab.current, fun location => (hab.entry location).trans (hbc.entry location)⟩

theorem mono {made' written' : List Location} (changes : Changes made written before after)
    (hm : made ⊆ made') (hw : written ⊆ written') : Changes made' written' before after :=
  ⟨changes.current, fun location => (changes.entry location).mono hm hw⟩

theorem put {files : FileSystem} {location : Location} {entry : Entry} (proper : location ≠ [])
    (change : Change made written location (files.lookup location) (some entry)) :
    Changes made written files (files.put location entry) := by
  refine ⟨rfl, fun other => ?_⟩
  by_cases same : other = location
  · subst same
    rw [lookup_put_self files entry proper]
    exact change
  · rw [lookup_put_of_ne files entry same]
    exact .same _

/-- Where nothing is written, only a directory can be new. -/
theorem elsewhere (changes : Changes made written before after) {location : Location}
    (h : location ∉ written) :
    after.lookup location = before.lookup location ∨
      before.lookup location = none ∧ after.lookup location = some .directory ∧
        location ∈ made := by
  have change := changes.entry location
  generalize before.lookup location = old at change
  generalize after.lookup location = new at change
  cases change with
  | same => exact .inl rfl
  | directory new => exact .inr ⟨rfl, rfl, new⟩
  | file _ target => exact absurd target h

theorem directory (changes : Changes made written before after) {location : Location}
    (h : before.isDirectoryAt location = true) : after.isDirectoryAt location = true := by
  rw [isDirectoryAt_iff] at h ⊢
  have change := changes.entry location
  rw [h] at change
  exact change.keeps_directory

theorem start (changes : Changes made written before after) (path : Path) :
    after.start path = before.start path := by
  rw [FileSystem.start, FileSystem.start, changes.current]

theorem follow (changes : Changes made written before after) {location target : Location}
    {parts : List Part} (h : before.follow location parts = .ok target) :
    after.follow location parts = .ok target := by
  induction parts generalizing location with
  | nil => exact h
  | cons part parts ih =>
    obtain ⟨next, he, hf⟩ := follow_cons.mp h
    obtain ⟨directory, onward, named⟩ := enter_eq_ok_iff.mp he
    refine follow_cons.mpr ⟨next, enter_eq_ok_iff.mpr ⟨?_, onward, ?_⟩, ih hf⟩
    · exact changes.directory directory
    · intro name hn
      exact ⟨(named name hn).1, (changes.entry _).keeps_some (named name hn).2⟩

end Changes

/-! ## Existing entries -/

theorem resolve_eq_ok_iff {files : FileSystem} {path : Path} {location : Location} :
    files.resolve path = .ok location ↔
      nameable path = .ok () ∧ files.follow (files.start path) (parts path) = .ok location ∧
        (Path.endsWithSlash path = true → files.isDirectoryAt location = true) := by
  rw [resolve, bind_eq_ok]
  constructor
  · rintro ⟨⟨⟩, nameable, h⟩
    obtain ⟨target, hf, h⟩ := bind_eq_ok.mp h
    split_ifs at h with slash
    obtain rfl : target = location := Except.ok.inj h
    refine ⟨nameable, hf, fun hs => ?_⟩
    simpa [hs] using slash
  · rintro ⟨nameable, hf, hs⟩
    refine ⟨(), nameable, bind_eq_ok.mpr ⟨location, hf, ?_⟩⟩
    rw [if_neg]
    · rfl
    · simpa using hs

theorem resolve_destination {files : FileSystem} {path : Path} {location : Location}
    (h : files.resolve path = .ok location) : location = destination files.current path :=
  follow_ok (resolve_eq_ok_iff.mp h).2.1

theorem Changes.resolve {made written : List Location} {before after : FileSystem}
    (changes : Changes made written before after) {path : Path} {location : Location}
    (h : before.resolve path = .ok location) : after.resolve path = .ok location := by
  obtain ⟨nameable, hf, hs⟩ := resolve_eq_ok_iff.mp h
  refine resolve_eq_ok_iff.mpr ⟨nameable, ?_, fun slash => changes.directory (hs slash)⟩
  rw [changes.start]
  exact changes.follow hf

theorem isDirectory_iff {files : FileSystem} {path : Path} :
    files.isDirectory path = true ↔
      ∃ location, files.resolve path = .ok location ∧ files.isDirectoryAt location = true := by
  unfold isDirectory
  split
  · rename_i location h
    exact ⟨fun hd => ⟨location, h, hd⟩, fun ⟨_, hl, hd⟩ => by rw [h] at hl; cases hl; exact hd⟩
  · rename_i h
    simp [h]

theorem Changes.isDirectory {made written : List Location} {before after : FileSystem}
    (changes : Changes made written before after) {path : Path}
    (h : before.isDirectory path = true) : after.isDirectory path = true := by
  obtain ⟨location, hr, hd⟩ := isDirectory_iff.mp h
  exact isDirectory_iff.mpr ⟨location, changes.resolve hr, changes.directory hd⟩

/-- A directory and all the directories that its path passes through. -/
theorem isDirectoryAt_of_isDirectory {files : FileSystem} {path : Path}
    (h : files.isDirectory path = true) {front : List Part} (hp : front <+: parts path) :
    files.isDirectoryAt (front.foldl Part.step (files.start path)) = true := by
  obtain ⟨location, hr, hd⟩ := isDirectory_iff.mp h
  obtain ⟨rest, hrest⟩ := hp
  have hf := (resolve_eq_ok_iff.mp hr).2.1
  rw [← hrest] at hf
  cases rest with
  | nil =>
    rw [List.append_nil] at hf
    rw [← follow_ok hf]
    exact hd
  | cons part rest => exact follow_directories hf (List.cons_ne_nil part rest)

theorem read_eq_ok_iff {files : FileSystem} {path : Path} {text : Text} :
    files.read path = .ok text ↔
      ∃ location file, files.resolve path = .ok location ∧
        files.lookup location = some (.file file) ∧ Text.ofBytes? file.content = some text := by
  rw [read, bind_eq_ok]
  constructor
  · rintro ⟨location, hr, h⟩
    split at h
    · rename_i file hl
      split at h
      · rename_i text' ht
        obtain rfl : text' = text := Except.ok.inj h
        exact ⟨location, file, hr, hl, ht⟩
      · cases h
    · cases h
  · rintro ⟨location, file, hr, hl, ht⟩
    refine ⟨location, hr, ?_⟩
    simp only [hl, ht]
    rfl

theorem Changes.read {made written : List Location} {before after : FileSystem}
    (changes : Changes made written before after) {path : Path} {text : Text}
    (h : before.read path = .ok text) (hw : destination before.current path ∉ written) :
    after.read path = .ok text := by
  obtain ⟨location, file, hr, hl, ht⟩ := read_eq_ok_iff.mp h
  rw [← resolve_destination hr] at hw
  have change := changes.entry location
  rw [hl] at change
  exact read_eq_ok_iff.mpr ⟨location, file, changes.resolve hr, change.keeps_file hw, ht⟩

theorem pathExists_of_read {files : FileSystem} {path : Path} {text : Text}
    (h : files.read path = .ok text) : files.pathExists path = true := by
  obtain ⟨location, _, hr, -⟩ := read_eq_ok_iff.mp h
  rw [pathExists, hr]
  rfl

/-! ## Writing and making directories -/

/-- A name in an existing directory, to which the path leads. -/
structure Placed (files : FileSystem) (path : Path) (location : Location) (name : Text) : Prop where
  nameable : nameable path = .ok ()
  leads : ∃ front, parts path = front ++ [.name name] ∧
    files.follow (files.start path) front = .ok location
  directory : files.isDirectoryAt location = true
  short : Text.byteLength name ≤ longestName

theorem place_ok {files : FileSystem} {path : Path} {location : Location} {name : Text}
    (h : files.place path = .ok (location, some name)) : Placed files path location name := by
  rw [place, bind_eq_ok] at h
  obtain ⟨⟨⟩, nameable, h⟩ := h
  obtain ⟨inner, hf, h⟩ := bind_eq_ok.mp h
  split_ifs at h with hd
  split at h
  · rename_i last hl
    split_ifs at h with long
    obtain ⟨rfl, rfl⟩ : inner = location ∧ last = name := by
      have := Except.ok.inj h
      simpa using this
    obtain ⟨front, hp⟩ := List.getLast?_eq_some_iff.mp hl
    rw [hp, List.dropLast_concat] at hf
    exact ⟨nameable, ⟨front, hp, hf⟩, by simpa using hd, by omega⟩
  · cases h

namespace Placed

variable {files : FileSystem} {path : Path} {location : Location} {name : Text}

theorem destination_eq (placed : Placed files path location name) :
    destination files.current path = location ++ [name] := by
  obtain ⟨front, hp, hf⟩ := placed.leads
  have hl : location = front.foldl Part.step (files.start path) := follow_ok hf
  rw [destination, hp, List.foldl_append, hl]
  rfl

/-- What is put at the name is found under the path. -/
theorem resolve_put (placed : Placed files path location name) {entry : Entry}
    {made written : List Location}
    (change : Change made written (location ++ [name]) (files.lookup (location ++ [name]))
      (some entry))
    (hs : Path.endsWithSlash path = true → entry = .directory) :
    (files.put (location ++ [name]) entry).resolve path = .ok (location ++ [name]) := by
  obtain ⟨front, hp, hf⟩ := placed.leads
  have proper : location ++ [name] ≠ [] := by simp
  have changes := Changes.put proper change
  have there := lookup_put_self files entry proper
  refine resolve_eq_ok_iff.mpr ⟨placed.nameable, ?_, fun slash => ?_⟩
  · rw [hp, changes.start]
    refine follow_append.mpr ⟨location, changes.follow hf, follow_singleton.mpr ?_⟩
    refine enter_eq_ok_iff.mpr ⟨changes.directory placed.directory, rfl, ?_⟩
    rintro _ ⟨rfl⟩
    exact ⟨placed.short, by rw [there]; rfl⟩
  · rw [isDirectoryAt_iff, there, hs slash]

end Placed

/-- Where writing succeeds, a file is put at a name that no directory has. -/
theorem write_ok {files after : FileSystem} {path : Path} {content : Text}
    (h : files.write path content = .ok after) :
    ∃ location name executable, Placed files path location name ∧
      Path.endsWithSlash path = false ∧ files.lookup (location ++ [name]) ≠ some .directory ∧
      after = files.put (location ++ [name]) (.file ⟨Text.bytes content, executable⟩) := by
  rw [write, bind_eq_ok] at h
  obtain ⟨⟨location, name?⟩, hp, h⟩ := h
  cases name? with
  | none => cases h
  | some name =>
    dsimp only at h
    split_ifs at h with slash
    have slash : Path.endsWithSlash path = false := by simpa using slash
    split at h
    · cases h
    · rename_i file hl
      exact ⟨location, name, file.executable, place_ok hp, slash, by simp [hl],
        (Except.ok.inj h).symm⟩
    · rename_i hl
      exact ⟨location, name, false, place_ok hp, slash, by simp [hl], (Except.ok.inj h).symm⟩

theorem write_changes {files after : FileSystem} {path : Path} {content : Text}
    (h : files.write path content = .ok after) :
    Changes [] [destination files.current path] files after := by
  obtain ⟨location, name, executable, placed, -, free, rfl⟩ := write_ok h
  rw [placed.destination_eq]
  exact Changes.put (by simp) (.file _ (List.mem_singleton_self _) free)

theorem read_of_write {files after : FileSystem} {path : Path} {content : Text}
    (h : files.write path content = .ok after) : after.read path = .ok content := by
  obtain ⟨location, name, executable, placed, slash, free, rfl⟩ := write_ok h
  have change : Change [] [location ++ [name]] (location ++ [name])
      (files.lookup (location ++ [name])) (some (.file ⟨Text.bytes content, executable⟩)) :=
    .file _ (List.mem_singleton_self _) free
  have found := placed.resolve_put change (by simp [slash])
  have proper : location ++ [name] ≠ [] := by simp
  have there := lookup_put_self files (.file ⟨Text.bytes content, executable⟩) proper
  exact read_eq_ok_iff.mpr ⟨_, _, found, there, Text.ofBytes?_bytes content⟩

theorem makeDirectory_ok {files after : FileSystem} {path : Path}
    (h : files.makeDirectory path = .ok after) :
    ∃ location name, Placed files path location name ∧
      files.lookup (location ++ [name]) = none ∧
      after = files.put (location ++ [name]) .directory := by
  rw [makeDirectory, bind_eq_ok] at h
  obtain ⟨⟨location, name?⟩, hp, h⟩ := h
  cases name? with
  | none => cases h
  | some name =>
    dsimp only at h
    split_ifs at h with present
    refine ⟨location, name, place_ok hp, ?_, (Except.ok.inj h).symm⟩
    simpa using present

theorem makeDirectory_changes {files after : FileSystem} {path : Path}
    (h : files.makeDirectory path = .ok after) :
    Changes [destination files.current path] [] files after := by
  obtain ⟨location, name, placed, absent, rfl⟩ := makeDirectory_ok h
  rw [placed.destination_eq]
  refine Changes.put (by simp) ?_
  rw [absent]
  exact .directory (List.mem_singleton_self _)

theorem isDirectory_of_makeDirectory {files after : FileSystem} {path : Path}
    (h : files.makeDirectory path = .ok after) : after.isDirectory path = true := by
  obtain ⟨location, name, placed, absent, rfl⟩ := makeDirectory_ok h
  have change : Change [location ++ [name]] [] (location ++ [name])
      (files.lookup (location ++ [name])) (some .directory) := by
    rw [absent]
    exact .directory (List.mem_singleton_self _)
  refine isDirectory_iff.mpr ⟨_, placed.resolve_put change fun _ => rfl, ?_⟩
  exact isDirectoryAt_iff.mpr (lookup_put_self files _ (by simp))

/-- What came of making the first of some directories, with the others where they are missing. -/
structure Made (paths : List Path) (before : FileSystem)
    (outcome : Except Fault Unit × FileSystem) : Prop where
  changes : Changes (paths.map (destination before.current)) [] before outcome.2
  present {path : Path} (first : paths.head? = some path) (ok : outcome.1 = .ok ()) :
    path = [] ∨ outcome.2.isDirectory path = true

namespace Made

variable {files middle after : FileSystem} {path : Path} {above : List Path}

theorem widen {made : List Path}
    (changes : Changes (made.map (destination files.current)) [] files after) (path : Path) :
    Changes ((path :: made).map (destination files.current)) [] files after :=
  changes.mono (List.subset_cons_self _ _) (List.Subset.refl _)

theorem found
    (changes : Changes ((path :: above).map (destination files.current)) [] files after)
    (h : after.isDirectory path = true) : Made (path :: above) files (.ok (), after) := by
  refine ⟨changes, fun first _ => .inr ?_⟩
  cases first
  exact h

theorem failed {fault : Fault}
    (changes : Changes ((path :: above).map (destination files.current)) [] files after) :
    Made (path :: above) files (.error fault, after) :=
  ⟨changes, fun _ ok => nomatch ok⟩

theorem created (before : Changes (above.map (destination files.current)) [] files middle)
    (h : middle.makeDirectory path = .ok after) : Made (path :: above) files (.ok (), after) := by
  have last := makeDirectory_changes h
  rw [before.current] at last
  have subset : [destination files.current path] ⊆
      (path :: above).map (destination files.current) := by simp
  exact found ((widen before path).trans (last.mono subset (List.Subset.refl _)))
    (isDirectory_of_makeDirectory h)

end Made

theorem makeDirectories_made (files : FileSystem) (paths : List Path) :
    Made paths files (files.makeDirectories paths) := by
  fun_induction makeDirectories files paths with
  | case1 => exact ⟨.refl files, fun first => nomatch first⟩
  | case2 path above empty =>
    refine ⟨.refl files, fun first _ => .inl ?_⟩
    cases first
    exact List.isEmpty_iff.mp empty
  | case3 path above _ after h => exact .created (.refl files) h
  | case4 path above _ _ _ middle hm after h ih =>
    rw [hm] at ih
    exact .created ih.changes h
  | case5 path above _ _ _ middle hm fault _ there ih =>
    rw [hm] at ih
    exact .found (Made.widen ih.changes path) there
  | case6 path above _ _ _ middle hm fault _ _ ih =>
    rw [hm] at ih
    exact .failed (Made.widen ih.changes path)
  | case7 path above _ _ failed ih =>
    -- the directories above could not be made, so the answer is no success
    refine ⟨Made.widen ih.changes path, fun _ ok => ?_⟩
    exact (failed () _ (Prod.ext ok rfl)).elim
  | case8 path above _ fault _ _ there => exact .found (.refl files) there
  | case9 path above _ fault _ _ _ => exact .failed (.refl files)

theorem ensureDirectory_changes (files : FileSystem) (dir : Path) :
    Changes ((Path.ancestors dir).map (destination files.current)) [] files
      (files.ensureDirectory dir).2 := by
  unfold ensureDirectory
  split
  · exact .refl files
  · exact (makeDirectories_made files (Path.ancestors dir)).changes

theorem ensureDirectory_ok {files : FileSystem} {dir : Path}
    (ok : (files.ensureDirectory dir).1 = .ok ()) (missing : files.pathExists dir = false) :
    dir = [] ∨ (files.ensureDirectory dir).2.isDirectory dir = true := by
  rw [ensureDirectory, missing] at ok ⊢
  exact (makeDirectories_made files (Path.ancestors dir)).present rfl ok

end FileSystem

end VoidScript
