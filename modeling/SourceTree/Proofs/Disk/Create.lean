import SourceTree.Proofs.Disk.Lookup

/-!
# Creating on a plain disk

A directory is created with those above it, from the outside to the inside, and a file behind
them. If no file is in the way, nothing else changes: along the path there are directories
afterwards, at its end there is what was asked for, and everywhere else there is what was there.
-/

namespace SourceTree.Disk

variable {disk : Disk} {path : Path} {front inner other : List String} {name : String}
  {entry : Entry}

theorem at?_put (below : inner ≠ []) :
    (disk.put (disk.workingDirectory ++ inner) entry).at? other =
      if other = inner then some entry else disk.at? other := by
  change Disk.entry? (disk.put _ entry) (disk.workingDirectory ++ other) = _
  by_cases root : disk.workingDirectory ++ other = []
  · rw [List.append_eq_nil_iff] at root
    rw [root.2, if_neg (Ne.symm below), at?, root.1]
    rfl
  · rw [entry?_put root]
    simp [at?]

theorem IsPlain.put (plain : disk.IsPlain) (isName : IsName name)
    (open_ : disk.at? front = some .directory)
    (closed : disk.at? (front ++ [name]) ≠ some .directory)
    (noLink : ∀ target, entry ≠ .link target) :
    (disk.put (disk.workingDirectory ++ (front ++ [name])) entry).IsPlain := by
  have places : ∀ other, (disk.put (disk.workingDirectory ++ (front ++ [name])) entry).at? other =
      if other = front ++ [name] then some entry else disk.at? other := fun _ => at?_put (by simp)
  constructor
  · simpa [places] using plain.home
  · intro inner last
    rw [places, places]
    intro present
    split at present
    next same =>
      obtain ⟨rfl, -⟩ := List.append_inj' same rfl
      simpa using open_
    next =>
      have directory := plain.above inner last present
      rw [if_neg, directory]
      rintro rfl
      exact closed directory
  · intro inner last
    rw [places]
    intro present
    split at present
    next same =>
      obtain ⟨-, same⟩ := List.append_inj' same rfl
      cases same
      exact isName
    next => exact plain.named inner last present
  · intro inner target
    rw [places]
    split
    · simpa using noLink target
    · exact plain.noLink inner target

theorem IsName.isDots_eq (isName : IsName name) : isDots name = false := by
  simp [isDots, isName.notCurrent, isName.notParent]

theorem entry?_last (shape : inner = front ++ [name]) :
    Disk.entry? disk (disk.workingDirectory ++ front ++ [name]) = disk.at? inner := by
  rw [at?, shape, List.append_assoc]

section Steps

variable (plain : disk.IsPlain) (legal : path.IsLegal) (shape : path.names = front ++ [name])

include plain shape

theorem approach_of_directory (links : Nat) (open_ : disk.at? front = some .directory) :
    disk.approach links disk.workingDirectory ⟨false, path.names, false⟩ =
      .ok (disk.workingDirectory ++ front, some name, links) := by
  have whole : disk.at? ([] ++ front) ≠ none := by simp [open_]
  have followed := plain.follow_of_present links whole
  rw [List.append_nil, List.nil_append] at followed
  have isDirectory := isDirectoryAt_iff.2 open_
  simp [approach, shape, followed, isDirectory]

include legal

theorem create_of_directory (open_ : disk.at? front = some .directory) (entry : Entry) :
    disk.create path entry =
      if disk.at? path.names = none then .ok (disk.put (disk.workingDirectory ++ path.names) entry)
      else .error .alreadyExists := by
  have isName := legal.named name (by simp [shape])
  rw [create, route_of_isLegal legal]
  simp only [start, bind, Except.bind, Bool.false_eq_true, if_false,
    approach_of_directory plain shape linkLimit open_, isName.isDots_eq,
    Nat.not_lt.2 isName.size, entry?_last shape]
  cases disk.at? path.names with
  | none => simp [shape, pure, Except.pure]
  | some found => simp [throw, throwThe, MonadExceptOf.throw]

theorem create_of_missing (absent : disk.at? front = none)
    (clear : ∀ part content, part <+: front → disk.at? part ≠ some (.file content))
    (entry : Entry) : disk.create path entry = .error .notFound := by
  have whole : disk.at? ([] ++ front) = none := absent
  have named : ∀ name ∈ front, IsName name := by
    intro name member
    exact legal.named name (by simp [shape, member])
  rcases plain.follow_of_absent linkLimit named (by simp [plain.home]) whole with
    ⟨error, followed, reason⟩
  rw [List.append_nil, reason clear] at followed
  have approached : disk.approach linkLimit disk.workingDirectory ⟨false, path.names, false⟩ =
      .error .notFound := by
    simp [approach, shape, followed]
  rw [create, route_of_isLegal legal]
  simp only [start, bind, Except.bind, Bool.false_eq_true, if_false, approached]

theorem writeBytes_of_directory (open_ : disk.at? front = some .directory) (content : ByteArray) :
    disk.writeBytes path content =
      if disk.at? path.names = some .directory then .error .isDirectory
      else .ok (disk.put (disk.workingDirectory ++ path.names) (.file content)) := by
  have isName := legal.named name (by simp [shape])
  have reached := approach_of_directory plain shape linkLimit open_
  have aimed : disk.target linkLimit disk.workingDirectory ⟨false, path.names, false⟩ =
      if disk.at? path.names = some .directory then .error .isDirectory
      else .ok (disk.workingDirectory ++ path.names) := by
    rw [target]
    split
    next approached => simp [reached] at approached
    next approached => simp [reached] at approached
    next approached =>
      rw [reached] at approached
      cases approached
      simp only [isName.isDots_eq, Bool.or_false, Bool.false_eq_true, if_false,
        Nat.not_lt.2 isName.size, entry?_last shape]
      cases found : disk.at? path.names with
      | none => simp [shape]
      | some entry =>
          cases entry with
          | link target => exact absurd found (plain.noLink _ target)
          | directory => simp
          | file content => simp [shape]
  rw [writeBytes, route_of_isLegal legal]
  by_cases directory : disk.at? path.names = some .directory
  · simp [start, bind, Except.bind, aimed, directory]
  · simp [start, bind, Except.bind, pure, Except.pure, aimed, directory]

end Steps

/-- `made` is the disk with directories all along a place. -/
structure IsOpened (disk made : Disk) (inner : List String) : Prop where
  plain : made.IsPlain
  home : made.workingDirectory = disk.workingDirectory
  places : ∀ other, made.at? other = if other <+: inner then some .directory else disk.at? other

theorem IsPlain.isOpened (plain : disk.IsPlain) (directory : disk.at? inner = some .directory) :
    disk.IsOpened disk inner := by
  refine ⟨plain, rfl, fun other => ?_⟩
  by_cases along : other <+: inner
  · rcases along with ⟨rest, rfl⟩
    rw [if_pos (List.prefix_append _ _)]
    by_cases last : rest = []
    · simpa [last] using directory
    · exact plain.directory_of_append last (by simp [directory])
  · rw [if_neg along]

theorem IsOpened.put {made : Disk} (opened : disk.IsOpened made front) (isName : IsName name)
    (absent : disk.at? (front ++ [name]) = none) :
    disk.IsOpened (made.put (made.workingDirectory ++ (front ++ [name])) .directory)
      (front ++ [name]) := by
  have open_ : made.at? front = some .directory := by simp [opened.places]
  have beyond : ¬front ++ [name] <+: front := by
    intro within
    simpa using within.length_le
  have closed : made.at? (front ++ [name]) ≠ some .directory := by
    rw [opened.places, if_neg beyond, absent]
    simp
  refine ⟨opened.plain.put isName open_ closed (by simp), opened.home, fun other => ?_⟩
  rw [at?_put (by simp), opened.places]
  simp only [List.prefix_concat_iff]
  by_cases last : other = front ++ [name]
  · simp [last]
  · simp [last]

/-- Nothing is to be done for the working directory itself. -/
theorem createDirectories_lineage_empty (disk : Disk) (count : Nat) :
    disk.createDirectories (lineage count ⟨""⟩) = (.ok (), disk) := by
  have none : Path.components ⟨""⟩ = [] := by decide
  cases count with
  | zero => simp [lineage, createDirectories, none]
  | succ count => simp [lineage, createDirectories, none, Path.parent?_empty]

section Directories

variable {above : List Path}

/-- In a directory, another one is created at once unless it is there. -/
theorem exists_createDirectories_of_directory (plain : disk.IsPlain) (legal : path.IsLegal)
    (shape : path.names = front ++ [name]) (open_ : disk.at? front = some .directory)
    (noFile : ∀ content, disk.at? path.names ≠ some (.file content)) :
    ∃ made, disk.createDirectories (path :: above) = (.ok (), made) ∧
      disk.IsOpened made path.names := by
  have nonempty : path.components.isEmpty = false := by simp [legal.components_eq, shape]
  rw [createDirectories, nonempty, create_of_directory plain legal shape open_, if_neg (by simp)]
  cases found : disk.at? path.names with
  | none =>
      refine ⟨_, rfl, ?_⟩
      have isName := legal.named name (by simp [shape])
      rw [shape] at found ⊢
      exact (plain.isOpened open_).put isName found
  | some entry =>
      have directory := plain.directory_of_ne_file (by simp [found]) noFile
      refine ⟨disk, ?_, plain.isOpened directory⟩
      simp [isDirectory_of_at? plain legal directory]

/-- Where there is nothing, the directories above are created first. -/
theorem exists_createDirectories_of_missing {between : Disk} (plain : disk.IsPlain)
    (legal : path.IsLegal) (shape : path.names = front ++ [name])
    (missing : disk.at? front = none)
    (clear : ∀ part content, part <+: front → disk.at? part ≠ some (.file content))
    (created : disk.createDirectories above = (.ok (), between))
    (opened : disk.IsOpened between front) :
    ∃ made, disk.createDirectories (path :: above) = (.ok (), made) ∧
      disk.IsOpened made path.names := by
  have nonempty : path.components.isEmpty = false := by simp [legal.components_eq, shape]
  have absent : disk.at? (front ++ [name]) = none := by
    by_contra present
    simp [plain.above _ _ present] at missing
  have beyond : ¬front ++ [name] <+: front := by
    intro within
    simpa using within.length_le
  have open_ : between.at? front = some .directory := by simp [opened.places]
  have free : between.at? path.names = none := by
    rw [shape, opened.places, if_neg beyond, absent]
  have put := opened.put (legal.named name (by simp [shape])) absent
  rw [createDirectories, nonempty, create_of_missing plain legal shape missing clear,
    if_neg (by simp)]
  simp only [created]
  rw [create_of_directory opened.plain legal shape open_, if_pos free]
  exact ⟨_, rfl, by rwa [shape]⟩

/-- If no file is in the way, a directory and those above it can be created. The number of names
bounds the way up to a directory that is there. -/
theorem exists_createDirectories (plain : disk.IsPlain) (kind : path = ⟨""⟩ ∨ path.IsLegal)
    {count : Nat} (enough : path.names.length ≤ count)
    (clear : ∀ part content, part <+: path.names → disk.at? part ≠ some (.file content)) :
    ∃ made, disk.createDirectories (lineage count path) = (.ok (), made) ∧
      disk.IsOpened made path.names := by
  induction count generalizing path with
  | zero =>
      rcases kind with rfl | legal
      · exact ⟨disk, createDirectories_lineage_empty disk 0, plain.isOpened plain.home⟩
      · exact absurd (List.eq_nil_of_length_eq_zero (Nat.le_zero.1 enough)) legal.names_ne_nil
  | succ count ih =>
      rcases kind with rfl | legal
      · exact ⟨disk, createDirectories_lineage_empty disk _, plain.isOpened plain.home⟩
      rcases legal.exists_parent with ⟨parent, found, parentNames, parentKind⟩
      obtain ⟨front, name, shape⟩ : ∃ front name, path.names = front ++ [name] :=
        ⟨_, _, (List.dropLast_concat_getLast legal.names_ne_nil).symm⟩
      rw [shape, List.dropLast_concat] at parentNames
      have unrolled : lineage (count + 1) path = path :: lineage count parent := by
        simp [lineage, found]
      have clearAbove : ∀ part content, part <+: front → disk.at? part ≠ some (.file content) := by
        intro part content within
        exact clear part content (shape ▸ within.trans (List.prefix_append _ _))
      rw [unrolled]
      -- Either the directory goes into one that is there, or that one is created first.
      cases outer : disk.at? front with
      | none =>
          have shorter : parent.names.length ≤ count := by
            simpa [shape, parentNames] using enough
          rcases ih parentKind shorter (parentNames ▸ clearAbove) with ⟨between, created, opened⟩
          rw [parentNames] at opened
          exact exists_createDirectories_of_missing plain legal shape outer clearAbove created
            opened
      | some entry =>
          have open_ := plain.directory_of_ne_file (by simp [outer]) fun content =>
            clearAbove front content List.prefix_rfl
          exact exists_createDirectories_of_directory plain legal shape open_
            fun content => clear _ content List.prefix_rfl

end Directories

section Place

variable (plain : disk.IsPlain) (legal : path.IsLegal)
  (clear : ∀ part content, part <+: path.names → part ≠ path.names →
    disk.at? part ≠ some (.file content))

include plain legal clear

theorem place_eq (content : ByteArray) :
    ∃ made, disk.IsOpened made path.names.dropLast ∧ disk.place path content =
      if disk.at? path.names = some .directory then (.error (.system .isDirectory), made)
      else (.ok (), made.put (made.workingDirectory ++ path.names) (.file content)) := by
  rcases legal.exists_parent with ⟨parent, found, parentNames, parentKind⟩
  obtain ⟨front, name, shape⟩ : ∃ front name, path.names = front ++ [name] :=
    ⟨_, _, (List.dropLast_concat_getLast legal.names_ne_nil).symm⟩
  have enough : parent.names.length ≤ parent.components.length := by
    rcases parentKind with rfl | parentLegal
    · decide
    · simp [parentLegal.components_eq]
  have beyond : ¬path.names <+: front := by
    intro within
    simpa [shape] using within.length_le
  rw [shape, List.dropLast_concat] at parentNames
  have clearAbove : ∀ part content, part <+: parent.names →
      disk.at? part ≠ some (.file content) := by
    intro part content within
    rw [parentNames] at within
    apply clear part content
    · rw [shape]
      exact within.trans (List.prefix_append _ _)
    · rintro rfl
      exact beyond within
  rcases exists_createDirectories plain parentKind enough clearAbove with ⟨made, created, opened⟩
  rw [parentNames] at opened
  have open_ : made.at? front = some .directory := by simp [opened.places]
  have kept : made.at? path.names = disk.at? path.names := by rw [opened.places, if_neg beyond]
  refine ⟨made, by rwa [shape, List.dropLast_concat], ?_⟩
  simp only [place, found, createDirectory, created,
    writeBytes_of_directory opened.plain legal shape open_, kept]
  by_cases directory : disk.at? path.names = some .directory
  · simp [directory]
  · simp [directory]

theorem exists_place_of_directory (directory : disk.at? path.names = some .directory)
    (content : ByteArray) :
    ∃ error made, disk.place path content = (.error error, made) ∧
      made.workingDirectory = disk.workingDirectory ∧ ∀ other, made.at? other = disk.at? other := by
  rcases place_eq plain legal clear content with ⟨made, opened, placed⟩
  rw [if_pos directory] at placed
  refine ⟨_, made, placed, opened.home, fun other => ?_⟩
  have above : disk.at? path.names.dropLast = some .directory := by
    apply plain.above _ (path.names.getLast legal.names_ne_nil)
    rw [List.dropLast_concat_getLast, directory]
    simp
  rw [opened.places, ← (plain.isOpened above).places]

theorem exists_place (free : disk.at? path.names ≠ some .directory) (content : ByteArray) :
    ∃ made, disk.place path content = (.ok (), made) ∧
      made.workingDirectory = disk.workingDirectory ∧
      ∀ other, made.at? other =
        if other = path.names then some (.file content)
        else if other <+: path.names then some .directory
        else disk.at? other := by
  rcases place_eq plain legal clear content with ⟨made, opened, placed⟩
  rw [if_neg free] at placed
  refine ⟨_, placed, opened.home, fun other => ?_⟩
  rw [at?_put legal.names_ne_nil, opened.places]
  by_cases last : other = path.names
  · simp [last]
  · have shape := List.dropLast_concat_getLast legal.names_ne_nil
    have along : other <+: path.names ↔ other <+: path.names.dropLast := by
      rw [← shape, List.prefix_concat_iff, shape]
      simp [last]
    simp [last, along]

end Place

end SourceTree.Disk
