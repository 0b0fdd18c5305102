import ContentBlocker.Disk.Basic

/-!
# Files and directories

What can be done on a disk by path: reading and writing files, making and listing directories,
making links, and removing.
-/

namespace ContentBlocker.Disk

/-! ### Files -/

/-- The content of a file and the time of its last change. -/
def readFile (d : Disk) (path : Bytes) : Except DiskError (Bytes × Int) := do
  match ← d.item true path with
  | (_, .file content modified) => return (← content.read, modified)
  | (_, .closed cause) => .error cause
  | _ => .error .isADirectory

/-- What is read is the file at the place that the path leads to. -/
theorem readFile_iff {d : Disk} {path content : Bytes} {modified : Int} :
    d.readFile path = .ok (content, modified) ↔
      ∃ place, d.find true path = .ok (.item place) ∧
        d.get? place = some (.file (.bytes content) modified) := by
  simp only [← item_eq_ok_iff]
  unfold readFile
  cases d.item true path with
  | error cause => simp [bind, Except.bind]
  | ok found =>
    obtain ⟨place, item⟩ := found
    cases item with
    | file read time => cases read <;> simp [bind, Except.bind, pure, Except.pure, Content.read]
    | closed cause => simp [bind, Except.bind]
    | directory => simp [bind, Except.bind]
    | link target => simp [bind, Except.bind]

/-- The text of a file. -/
def readText (d : Disk) (path : Bytes) : Except DiskError String := do
  let (content, _) ← d.readFile path
  match content with
  | .text s => .ok s
  | .raw _ => .error .notText

theorem readText_iff {d : Disk} {path : Bytes} {text : String} :
    d.readText path = .ok text ↔ ∃ modified, d.readFile path = .ok (.text text, modified) := by
  unfold readText
  cases d.readFile path with
  | error e => simp [bind, Except.bind]
  | ok found =>
    obtain ⟨content, modified⟩ := found
    cases content <;> simp [bind, Except.bind]

/-- The time when a file was changed last. The file has to be one that can be opened, but nothing in
it is read. -/
def modified (d : Disk) (path : Bytes) : Except DiskError Int := do
  match ← d.item true path with
  | (_, .file _ modified) => .ok modified
  | (_, .closed cause) => .error cause
  | _ => .error .notARegularFile

/-- What has a time is a file at the place that the path leads to. -/
theorem modified_iff {d : Disk} {path : Bytes} {modified : Int} :
    d.modified path = .ok modified ↔
      ∃ place content, d.find true path = .ok (.item place) ∧
        d.get? place = some (.file content modified) := by
  simp only [← item_eq_ok_iff]
  unfold Disk.modified
  cases d.item true path with
  | error e => simp [bind, Except.bind]
  | ok found =>
    obtain ⟨place, item⟩ := found
    cases item <;> simp [bind, Except.bind]

/-- What can be read has a time. -/
theorem modified_of_readFile {d : Disk} {path content : Bytes} {modified : Int}
    (h : d.readFile path = .ok (content, modified)) : d.modified path = .ok modified := by
  obtain ⟨place, hfind, hfile⟩ := readFile_iff.mp h
  exact modified_iff.mpr ⟨place, _, hfind, hfile⟩

/-- The disk with a file changed or made. -/
def writeFile (d : Disk) (now : Int) (path content : Bytes) : Except DiskError Disk := do
  match ← d.find true path with
  | .free place => .ok (d.put place (.file (.bytes content) now))
  | .item place =>
    match d.get? place with
    | some (.file _ _) => .ok (d.put place (.file (.bytes content) now))
    | some (.closed cause) => .error cause
    | _ => .error .isADirectory

/-- The disk with another time of the last change of a file. -/
def setModified (d : Disk) (path : Bytes) (time : Int) : Except DiskError Disk := do
  match ← d.item true path with
  | (place, .file content _) => .ok (d.put place (.file content time))
  | (_, .closed cause) => .error cause
  | _ => .error .isADirectory

/-- The disk without a file or a link. -/
def removeFile (d : Disk) (path : Bytes) : Except DiskError Disk := do
  match ← d.item false path with
  | (_, .directory) => .error .isADirectory
  | (place, _) => .ok (d.erase place)

/-- What is removed is no directory. -/
theorem removeFile_eq_ok {d e : Disk} {path : Bytes} (h : d.removeFile path = .ok e) :
    ∃ place item, d.item false path = .ok (place, item) ∧ item ≠ .directory ∧
      e = d.erase place := by
  unfold removeFile at h
  cases hitem : d.item false path with
  | error cause => simp [hitem, bind, Except.bind] at h
  | ok found =>
    obtain ⟨place, item⟩ := found
    rw [hitem] at h
    cases item with
    | directory => cases h
    | file content modified => exact ⟨place, _, rfl, by simp, (Except.ok.inj h).symm⟩
    | closed cause => exact ⟨place, _, rfl, by simp, (Except.ok.inj h).symm⟩
    | link target => exact ⟨place, _, rfl, by simp, (Except.ok.inj h).symm⟩

/-- The disk with a new link. -/
def makeLink (d : Disk) (path target : Bytes) : Except DiskError Disk := do
  let _ ← Path.parse target
  if target.size = 0 then .error .notFound
  else
    match ← d.find false path with
    | .free place => .ok (d.put place (.link target))
    | .item _ => .error .exists

/-! ### Directories -/

/-- Whether names lead from a place to a directory. -/
def isDirectory (d : Disk) (place : Place) (names : List Bytes) : Bool :=
  match d.follow true linkLimit place names with
  | .ok (.item place) => d.get? place == some .directory
  | _ => false

/-- The disk with one more directory, where names lead to from a place. -/
def makeDirectory (d : Disk) (place : Place) (names : List Bytes) : Except DiskError Disk := do
  match ← d.follow false linkLimit place names with
  | .free place => .ok (d.put place .directory)
  | .item _ => .error .exists

/-- Makes a directory, where names lead to from a place, unless it is there. If the one that it is to
be in is missing, `above` is done first, which should make that one. -/
def ensureDirectory (place : Place) (names : List Bytes)
    (above : Disk → Except DiskError Unit × Disk) (d : Disk) : Except DiskError Unit × Disk :=
  let orThere (d : Disk) (e : DiskError) : Except DiskError Unit × Disk :=
    if d.isDirectory place names then (.ok (), d) else (.error e, d)
  match d.makeDirectory place names with
  | .ok d => (.ok (), d)
  | .error .notFound =>
    match above d with
    -- What `above` has made by then stays.
    | (.error e, d) => (.error e, d)
    | (.ok (), d) =>
      match d.makeDirectory place names with
      | .ok d => (.ok (), d)
      | .error e => orThere d e
  | .error e => orThere d e

/-- Makes the directory where names, given last one first, lead to from a place, and those on the way
to it. -/
def ensureDirectories (place : Place) : List Bytes → Disk → Except DiskError Unit × Disk
  | [], d => (.ok (), d)
  | name :: above, d =>
    d.ensureDirectory place (name :: above).reverse (ensureDirectories place above)

/-- Makes a directory and those on the way to it, as far as they are missing. Steps from a directory
to itself are not made on the way, but the last one is. -/
def makeDirectories (d : Disk) (path : Bytes) : Except DiskError Unit × Disk :=
  match Path.parse path with
  | .error e => (.error e, d)
  | .ok path =>
    match (path.names.filter (· ≠ Path.self)).reverse with
    | [] => (.ok (), d)
    | _ :: above =>
      let place := d.startOf path
      d.ensureDirectory place path.names (ensureDirectories place above)

/-- The names in a directory. -/
def listDirectory (d : Disk) (path : Bytes) : Except DiskError (List Bytes) := do
  match ← d.item true path with
  | (place, .directory) => .ok (d.names place)
  | _ => .error .notADirectory

/-- The disk without what a path leads to, and all that is in it. -/
def removeAll (d : Disk) (path : Bytes) : Except DiskError Disk := do
  let (place, _) ← d.item false path
  .ok (d.erase place)

end ContentBlocker.Disk
