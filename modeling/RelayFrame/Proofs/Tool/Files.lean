import RelayFrame.Proofs.Attempts
import RelayFrame.Tool.FileTree

/-!
# What writing a file does

Where a path leads does not depend on the contents of files.  So a file that
was written is found again under the same path and holds what was written, and
nothing stands anywhere else that did not stand there before.  Only a device
takes bytes without keeping them.
-/

namespace RelayFrame.Tool.FileTree

variable {tree later : FileTree} {location : Location} {content : Bytes}
variable {text : String}

/-- The place of the file that a path names, whether or not it is there. -/
def place? (tree : FileTree) (text : String) :
    Except FileError Location := do
  match ← tree.follow text with
  | (_, .folder) => .error .isDirectory
  | (folder, .named name slashed) =>
      if slashed then .error .isDirectory else find folder name

/-! ## Paths in a tree with one file more -/

theorem node?_insert (other : Location) :
    (tree.insert location content).node? other =
      if other = location then some (.file content) else tree.node? other :=
  rfl

theorem enter_insert
    {folder next : Location} {step : String}
    (notFolder : tree.node? location ≠ some .folder)
    (entered : tree.enter folder step = .ok next) :
    (tree.insert location content).enter folder step = .ok next := by
  rw [enter] at entered ⊢
  split at entered
  next up => rwa [if_pos up]
  next notUp =>
    rw [if_neg notUp]
    obtain ⟨place, found, entered⟩ := exists_of_bind_eq_ok entered
    split at entered
    next isFolder =>
      -- The file stands elsewhere, since a step leads to folders only.
      have elsewhere : place ≠ location := by
        rintro rfl
        exact notFolder isFolder
      rw [found, ok_bind, node?_insert, if_neg elsewhere, isFolder]
      exact entered
    next => cases entered
    next => cases entered

theorem foldlM_enter_insert
    {steps : List String} {start folder : Location}
    (notFolder : tree.node? location ≠ some .folder)
    (entered : steps.foldlM tree.enter start = .ok folder) :
    steps.foldlM (tree.insert location content).enter start = .ok folder := by
  induction steps generalizing start with
  | nil => exact entered
  | cons step rest inductionHypothesis =>
      rw [List.foldlM_cons] at entered ⊢
      obtain ⟨next, first, entered⟩ := exists_of_bind_eq_ok entered
      rw [enter_insert notFolder first, ok_bind]
      exact inductionHypothesis entered

/-- A new file does not get in the way of a path that led somewhere. -/
theorem follow_insert
    {found : Location × PathEnd}
    (notFolder : tree.node? location ≠ some .folder)
    (followed : tree.follow text = .ok found) :
    (tree.insert location content).follow text = .ok found := by
  rw [follow] at followed ⊢
  split at followed
  next => cases followed
  next notEmpty =>
    rw [if_neg notEmpty]
    split at followed
    next => cases followed
    next short =>
      rw [if_neg short]
      obtain ⟨folder, entered, followed⟩ := exists_of_bind_eq_ok followed
      have again := @foldlM_enter_insert _ _ content _ _ _ notFolder entered
      exact (congrArg (· >>= _) again).trans followed

theorem exists_follow_of_place?
    (place : tree.place? text = .ok location) :
    ∃ folder name, tree.follow text = .ok (folder, .named name false) ∧
      find folder name = .ok location := by
  rw [place?] at place
  obtain ⟨⟨folder, ending⟩, followed, place⟩ := exists_of_bind_eq_ok place
  cases ending with
  | folder => cases place
  | named name slashed =>
      cases slashed with
      | true => cases place
      | false => exact ⟨folder, name, followed, place⟩

theorem place?_insert
    (notFolder : tree.node? location ≠ some .folder)
    {other : Location} (place : tree.place? text = .ok other) :
    (tree.insert location content).place? text = .ok other := by
  obtain ⟨folder, name, followed, found⟩ := exists_follow_of_place? place
  rw [place?, follow_insert notFolder followed]
  exact found

/-! ## Paths of one name -/

theorem ofString_of_noSlash
    (noSlash : '/' ∉ text.toList) (notEmpty : text ≠ "") :
    Path.ofString text = ⟨false, [], .named text false⟩ ∨
      (Path.ofString text).ending = .folder := by
  have whole : Path.parts text = [text] := by
    have together : text.toList.splitOn '/' = [text.toList] :=
      List.splitOnP_eq_singleton fun character member =>
        beq_eq_false_iff_ne.mpr fun isSlash => noSlash (isSlash ▸ member)
    rw [Path.parts, together, List.map_singleton, String.ofList_toList]
  have unrooted : (text.toList.head? == some '/') = false := by
    rw [beq_eq_false_iff_ne]
    exact fun head => noSlash (List.mem_of_head? head)
  have present : [text].filter (· != "") = [text] := by simp [notEmpty]
  have unslashed : (some text == some "") = false := by simp [notEmpty]
  simp only [Path.ofString, whole, unrooted, present,
    List.getLast?_singleton, unslashed]
  split
  · exact .inr rfl
  · exact .inl rfl

/-- A name without a slash stays in the folder that the run starts from. -/
theorem place?_of_noSlash
    (noSlash : '/' ∉ text.toList) (place : tree.place? text = .ok location) :
    location = tree.working ++ [text] := by
  obtain ⟨folder, name, followed, found⟩ := exists_follow_of_place? place
  rw [follow] at followed
  split at followed
  next => cases followed
  next notEmpty =>
    split at followed
    next => cases followed
    next =>
      obtain ⟨_, entered, ended⟩ := exists_of_bind_eq_ok followed
      obtain ⟨rfl, ending⟩ := Prod.mk.inj (Except.ok.inj ended)
      rcases ofString_of_noSlash noSlash notEmpty with named | atFolder
      · rw [named] at entered ending
        obtain ⟨rfl, -⟩ := PathEnd.named.inj ending
        obtain rfl := Except.ok.inj entered
        rw [find] at found
        split at found
        next => cases found
        next => exact (Except.ok.inj found).symm
      · cases atFolder.symm.trans ending

/-! ## Reading and writing -/

theorem read_of_place?
    (place : tree.place? text = .ok location)
    (holds : tree.node? location = some (.file content)) :
    tree.read text = .ok content := by
  obtain ⟨folder, name, followed, found⟩ := exists_follow_of_place? place
  rw [read, followed, ok_bind]
  change tree.readIn folder name false = _
  rw [readIn, found, ok_bind, holds]
  rfl

/-- A file is only written where a path leads to no folder, and either a
device takes it or it is put in place. -/
theorem exists_of_write_eq_ok
    (written : tree.write text content = .ok later) :
    ∃ location, tree.place? text = .ok location ∧
      ((∃ device, tree.node? location = some (.device device) ∧
          later = tree) ∨
        (tree.node? location ≠ some .folder ∧
          later = tree.insert location content)) := by
  rw [write] at written
  obtain ⟨⟨folder, ending⟩, followed, written⟩ :=
    exists_of_bind_eq_ok written
  cases ending with
  | folder => cases written
  | named name slashed =>
      cases slashed with
      | true => cases written
      | false =>
          obtain ⟨location, found, written⟩ := exists_of_bind_eq_ok written
          have place : tree.place? text = .ok location := by
            rw [place?, followed]
            exact found
          refine ⟨location, place, ?_⟩
          split at written
          next => cases written
          next device stands =>
            obtain ⟨_, -, same⟩ := exists_of_bind_eq_ok written
            exact .inl ⟨device, stands, (Except.ok.inj same).symm⟩
          next stands =>
            exact .inr ⟨by simp [stands], (Except.ok.inj written).symm⟩
          next nothing =>
            split at written
            next => cases written
            next =>
              exact .inr ⟨by simp [nothing], (Except.ok.inj written).symm⟩

section Written

variable (written : tree.write text content = .ok later)
variable (place : tree.place? text = .ok location)

include written place

theorem node?_of_write_of_ne
    {other : Location} (different : other ≠ location) :
    later.node? other = tree.node? other := by
  obtain ⟨target, targetPlace, ⟨_, -, rfl⟩ | ⟨-, rfl⟩⟩ :=
    exists_of_write_eq_ok written
  · rfl
  · obtain rfl : target = location :=
      Except.ok.inj (targetPlace.symm.trans place)
    rw [node?_insert, if_neg different]

variable (notDevice : ∀ device, tree.node? location ≠ some (.device device))

include notDevice

/-- A write that succeeds puts the file at its place, where no folder was. -/
theorem eq_insert_of_write :
    tree.node? location ≠ some .folder ∧
      later = tree.insert location content := by
  obtain ⟨target, targetPlace, inPlace⟩ := exists_of_write_eq_ok written
  obtain rfl : target = location :=
    Except.ok.inj (targetPlace.symm.trans place)
  obtain ⟨device, stands, -⟩ | inPlace := inPlace
  · exact absurd stands (notDevice device)
  · exact inPlace

theorem node?_of_write : later.node? location = some (.file content) := by
  obtain ⟨-, rfl⟩ := eq_insert_of_write written place notDevice
  rw [node?_insert, if_pos rfl]

theorem read_of_write : later.read text = .ok content := by
  have stands := node?_of_write written place notDevice
  obtain ⟨notFolder, rfl⟩ := eq_insert_of_write written place notDevice
  exact read_of_place? (place?_insert notFolder place) stands

end Written

end RelayFrame.Tool.FileTree
