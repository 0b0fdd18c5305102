import ContentBlocker.Disk.Files

/-!
# Disks without links

On a disk without symbolic links a path leads to one place or to none, whatever else stands there:
the place that its names spell (`Disk.place?`). So what is read and written by path can be said by
place, and a disk keeps what it has at every place that is not written.

Making a directory and removing files bring nothing new but directories (`Disk.Within`).
-/

namespace ContentBlocker.Disk

/-- Whether there are no symbolic links on a disk. -/
def NoLinks (d : Disk) : Prop :=
  ∀ place target, d.get? place ≠ some (.link target)

/-- There is nothing at all on an empty disk. -/
theorem noLinks_empty : NoLinks {} := by
  intro place target hlink
  unfold get? at hlink
  split at hlink <;> simp at hlink

/-- Where names lead from a place if no link is met. -/
def resolve : Place → List Bytes → Place
  | place, [] => place
  | place, name :: rest =>
    if name = Path.self then resolve place rest
    else if name = Path.parent then resolve place.dropLast rest
    else resolve (place ++ [name]) rest

theorem resolve_append (start : Place) (names more : List Bytes) :
    resolve start (names ++ more) = resolve (resolve start names) more := by
  induction names generalizing start with
  | nil => rfl
  | cons name names ih =>
    rw [List.cons_append, resolve, resolve]
    split
    · exact ih _
    · split <;> exact ih _

/-- The place that the names of a path spell. -/
def place? (d : Disk) (path : Bytes) : Option Place :=
  match Path.parse path with
  | .ok p => some (resolve (d.startOf p) p.steps)
  | .error _ => none

/-- Whether a disk has nothing but directories that another one does not have. -/
def Within (d other : Disk) : Prop :=
  d.start = other.start ∧
    ∀ place item, d.get? place = some item → item = .directory ∨ other.get? place = some item

theorem Within.refl (d : Disk) : d.Within d :=
  ⟨rfl, fun _ _ h => .inr h⟩

theorem Within.trans {d e f : Disk} (h : d.Within e) (h' : e.Within f) : d.Within f := by
  refine ⟨h.1.trans h'.1, fun place item hitem => ?_⟩
  rcases h.2 place item hitem with hdir | hitem
  · exact .inl hdir
  · exact h'.2 place item hitem

theorem Within.noLinks {d e : Disk} (h : d.Within e) (he : e.NoLinks) : d.NoLinks := by
  intro place target hlink
  rcases h.2 place _ hlink with hdir | hlink
  · simp at hdir
  · exact he place target hlink

theorem place?_congr {d e : Disk} (h : d.start = e.start) (path : Bytes) :
    d.place? path = e.place? path := by
  unfold place? startOf
  rw [h]

/-! ### Following paths -/

/-- A place that nothing stands at is not the root. -/
theorem ne_root_of_free {d : Disk} {place : Place} (h : d.get? place = none) : place ≠ [] := by
  rintro rfl
  simp [get?] at h

/-- Without links, names lead to the place that they spell. -/
theorem walk_spec {d : Disk} (hd : d.NoLinks) {followLast : Bool}
    {jump : Place → Bytes → List Bytes → Except DiskError Target} {place : Place}
    {names : List Bytes} {target : Target} (h : d.walk followLast jump place names = .ok target) :
    target = .item (resolve place names) ∨
      (target = .free (resolve place names) ∧ d.get? (resolve place names) = none) := by
  induction names generalizing place with
  | nil => exact .inl (Except.ok.inj h).symm
  | cons name rest ih =>
    rw [walk] at h
    split at h
    · simp at h
    · split at h
      · rename_i hself
        rw [resolve, if_pos hself]
        exact ih h
      · rename_i hself
        split at h
        · rename_i hparent
          rw [resolve, if_neg hself, if_pos hparent]
          exact ih h
        · rename_i hparent
          rw [resolve, if_neg hself, if_neg hparent]
          split at h
          · simp at h
          · split at h
            -- nothing stands there, which only the last name may lead to
            · rename_i hnone
              split at h
              · rename_i hlast
                obtain rfl : rest = [] := by simpa using hlast
                exact .inr ⟨(Except.ok.inj h).symm, hnone⟩
              · simp at h
            · rename_i link hlink
              exact absurd hlink (hd _ link)
            · exact ih h

theorem follow_spec {d : Disk} (hd : d.NoLinks) {followLast : Bool} {links : Nat} {place : Place}
    {names : List Bytes} {target : Target}
    (h : d.follow followLast links place names = .ok target) :
    target = .item (resolve place names) ∨
      (target = .free (resolve place names) ∧ d.get? (resolve place names) = none) := by
  cases links <;> exact walk_spec hd h

theorem find_spec {d : Disk} (hd : d.NoLinks) {followLast : Bool} {path : Bytes} {target : Target}
    (h : d.find followLast path = .ok target) :
    ∃ place, d.place? path = some place ∧
      (target = .item place ∨ (target = .free place ∧ d.get? place = none)) := by
  unfold find at h
  unfold place?
  cases hparse : Path.parse path with
  | error e => simp [hparse, bind, Except.bind] at h
  | ok p =>
    simp only [hparse, bind, Except.bind] at h
    split at h
    · simp at h
    · exact ⟨_, rfl, follow_spec hd h⟩

/-! ### Files -/

theorem item_spec {d : Disk} (hd : d.NoLinks) {followLast : Bool} {path : Bytes} {place : Place}
    {item : Item} (h : d.item followLast path = .ok (place, item)) :
    d.place? path = some place ∧ d.get? place = some item := by
  obtain ⟨hfind, hitem⟩ := item_eq_ok_iff.mp h
  obtain ⟨spelled, hplace, htarget | ⟨htarget, _⟩⟩ := find_spec hd hfind
  · cases htarget
    exact ⟨hplace, hitem⟩
  · cases htarget

/-- What is read is the file at the place of the path. -/
theorem readFile_spec {d : Disk} (hd : d.NoLinks) {path content : Bytes} {modified : Int}
    (h : d.readFile path = .ok (content, modified)) :
    ∃ place, d.place? path = some place ∧ d.get? place = some (.file (.bytes content) modified) := by
  obtain ⟨place, hfind, hfile⟩ := readFile_iff.mp h
  obtain ⟨spelled, hplace, htarget | ⟨htarget, _⟩⟩ := find_spec hd hfind
  · cases htarget
    exact ⟨place, hplace, hfile⟩
  · cases htarget

/-- What is written stands at the place of the path afterwards. -/
theorem writeFile_spec {d d' : Disk} (hd : d.NoLinks) {now : Int} {path content : Bytes}
    (h : d.writeFile now path content = .ok d') :
    ∃ place, d.place? path = some place ∧ place ≠ [] ∧
      d' = d.put place (.file (.bytes content) now) := by
  unfold writeFile at h
  cases hfind : d.find true path with
  | error e => simp [hfind, bind, Except.bind] at h
  | ok target =>
    obtain ⟨place, hplace, htarget⟩ := find_spec hd hfind
    simp only [hfind, bind, Except.bind] at h
    rcases htarget with rfl | ⟨rfl, hfree⟩
    · dsimp only at h
      split at h
      · rename_i hfile
        refine ⟨place, hplace, ?_, (Except.ok.inj h).symm⟩
        rintro rfl
        simp [get?] at hfile
      · simp at h
      · simp at h
    · exact ⟨place, hplace, ne_root_of_free hfree, (Except.ok.inj h).symm⟩

theorem within_erase (d : Disk) (place : Place) : (d.erase place).Within d := by
  refine ⟨rfl, fun other item h => ?_⟩
  by_cases hroot : other = []
  · subst hroot
    exact .inr (by simpa [get?] using h)
  · rw [get?_erase d place hroot] at h
    split at h
    · simp at h
    · exact .inr h

/-- Removing a file brings nothing new. -/
theorem removeFile_within {d d' : Disk} {path : Bytes} (h : d.removeFile path = .ok d') :
    d'.Within d := by
  obtain ⟨place, _, _, _, rfl⟩ := removeFile_eq_ok h
  exact within_erase d place

/-! ### Directories -/

theorem within_put_directory {d : Disk} {place : Place} (h : place ≠ []) :
    (d.put place .directory).Within d := by
  refine ⟨rfl, fun other item hitem => ?_⟩
  rw [get?_put d h] at hitem
  split at hitem
  · exact .inl (Option.some.inj hitem).symm
  · exact .inr hitem

end ContentBlocker.Disk
