import ContentBlocker.Disk.Path

/-!
# The disk

A disk holds files, directories and symbolic links. Every one of them has a place: the names that
lead to it from the root. The root is always a directory.

A path is followed name by name, through the links that are met (`Disk.find`). At most 40 links are
followed, so a path that leads in a circle is refused.
-/

namespace ContentBlocker

/-- The names that lead from the root to a place. -/
abbrev Place := List Bytes

/-- What reading a file gives. -/
inductive Content where
  | bytes (content : Bytes)
  | failure (cause : DiskError)
  deriving DecidableEq, Repr

/-- The bytes in a file, if they can be read. -/
def Content.read : Content → Except DiskError Bytes
  | .bytes content => .ok content
  | .failure cause => .error cause

/-- What stands at a place. -/
inductive Item where
  /-- A file that can be opened, with the time of its last change in nanoseconds. -/
  | file (content : Content) (modified : Int)
  /-- A file that can be opened neither to read nor to write, or something like it, as a socket is. -/
  | closed (cause : DiskError)
  | directory
  /-- A symbolic link to a path. -/
  | link (target : Bytes)
  deriving DecidableEq, Repr

/-- A disk. -/
structure Disk where
  /-- What stands at the places other than the root. -/
  items : List (Place × Item) := []
  /-- Where paths start that are not absolute. -/
  start : Place := []
  deriving DecidableEq, Repr

/-- Where a path leads. -/
inductive Target where
  | item (place : Place)
  /-- To a place in a directory where nothing stands. -/
  | free (place : Place)
  deriving DecidableEq, Repr

namespace Disk

/-! ### Places -/

/-- What stands at a place. -/
def get? (d : Disk) (place : Place) : Option Item :=
  if place = [] then some .directory else d.items.lookup place

/-- The disk with something at a place. -/
def put (d : Disk) (place : Place) (item : Item) : Disk :=
  { d with items := (place, item) :: d.items.filter (·.1 != place) }

/-- The disk without what stands at a place and below it. -/
def erase (d : Disk) (place : Place) : Disk :=
  { d with items := d.items.filter fun (other, _) => !place.isPrefixOf other }

/-- Leaving places out hides what stands there and nothing else. -/
theorem lookup_filter (items : List (Place × Item)) (keep : Place → Bool) (place : Place) :
    (items.filter (keep ·.1)).lookup place =
      if keep place then items.lookup place else none := by
  induction items with
  | nil => simp
  | cons head items ih =>
    obtain ⟨other, item⟩ := head
    by_cases hp : place = other
    · subst hp
      by_cases hk : keep place <;> simp [hk, ih]
    · have : (place == other) = false := by simpa using hp
      by_cases hk : keep other <;> simp [List.lookup_cons, hk, this, ih]

theorem get?_put (d : Disk) {place : Place} (h : place ≠ []) (item : Item) (other : Place) :
    (d.put place item).get? other = if other = place then some item else d.get? other := by
  have kept := lookup_filter d.items (· != place) other
  by_cases hp : other = place
  · subst hp
    simp [get?, put, h]
  · have : (other == place) = false := by simpa using hp
    simp [get?, put, List.lookup_cons, hp, this, kept]

theorem get?_erase (d : Disk) (place : Place) {other : Place} (h : other ≠ []) :
    (d.erase place).get? other = if place <+: other then none else d.get? other := by
  have kept : (d.erase place).items.lookup other = _ :=
    lookup_filter d.items (fun p => !place.isPrefixOf p) other
  simp only [get?, h, if_false, kept]
  by_cases hp : place <+: other
  · simp [hp, List.isPrefixOf_iff_prefix.2 hp]
  · simp [hp, List.isPrefixOf_iff_prefix]

/-- The name of a place right below another. -/
def childName? (place : Place) (other : Place) : Option Bytes :=
  match place.isPrefixOf? other with
  | some [name] => some name
  | _ => none

/-- The names in the directory at a place. -/
def names (d : Disk) (place : Place) : List Bytes :=
  d.items.filterMap fun (other, _) => childName? place other

/-! ### Following paths -/

/-- How many links are followed. -/
def linkLimit : Nat := 40

/-- Follows names from a place. `jump` goes on behind a link: it is given the directory of the link,
where the link leads to, and the names that are left. -/
def walk (d : Disk) (followLast : Bool)
    (jump : Place → Bytes → List Bytes → Except DiskError Target) :
    Place → List Bytes → Except DiskError Target
  | place, [] => .ok (.item place)
  | place, name :: rest =>
    if d.get? place ≠ some .directory then .error .notADirectory
    else if name = Path.self then walk d followLast jump place rest
    -- The root is the directory that the root is in.
    else if name = Path.parent then walk d followLast jump place.dropLast rest
    else if Path.nameSizeLimit < name.size then .error .nameTooLong
    else
      match d.get? (place ++ [name]) with
      | none => if rest.isEmpty then .ok (.free (place ++ [name])) else .error .notFound
      | some (.link target) =>
        if rest.isEmpty && !followLast then .ok (.item (place ++ [name]))
        else jump place target rest
      | some _ => walk d followLast jump (place ++ [name]) rest

/-- Follows names from a place through at most so many links. -/
def follow (d : Disk) (followLast : Bool) :
    Nat → Place → List Bytes → Except DiskError Target
  | 0 => d.walk followLast fun _ _ _ => .error .tooManyLinks
  | links + 1 => d.walk followLast fun place target rest => do
    let path ← Path.parse target
    d.follow followLast links (if path.isAbsolute then [] else place) (path.steps ++ rest)

/-- The place where a path starts. -/
def startOf (d : Disk) (path : Path) : Place :=
  if path.isAbsolute then [] else d.start

/-- Where a path leads. A link in the last place is followed if asked for. -/
def find (d : Disk) (followLast : Bool) (path : Bytes) : Except DiskError Target := do
  let path ← Path.parse path
  if path.isEmpty then .error .notFound
  else d.follow followLast linkLimit (d.startOf path) path.steps

/-- What a path leads to, with its place. -/
def item (d : Disk) (followLast : Bool) (path : Bytes) : Except DiskError (Place × Item) := do
  match ← d.find followLast path with
  | .free _ => .error .notFound
  | .item place =>
    match d.get? place with
    | some item => .ok (place, item)
    | none => .error .notFound

/-- What a path leads to stands at the place where it leads. -/
theorem item_eq_ok_iff {d : Disk} {followLast : Bool} {path : Bytes} {place : Place} {item : Item} :
    d.item followLast path = .ok (place, item) ↔
      d.find followLast path = .ok (.item place) ∧ d.get? place = some item := by
  unfold Disk.item
  cases d.find followLast path with
  | error cause => simp [bind, Except.bind]
  | ok target =>
    cases target with
    | free free => simp [bind, Except.bind]
    | item stands =>
      simp only [bind, Except.bind]
      cases hitem : d.get? stands with
      | none =>
        simp only [reduceCtorEq, Except.ok.injEq, Target.item.injEq, false_iff, not_and]
        rintro rfl
        simp [hitem]
      | some found =>
        simp only [Except.ok.injEq, Prod.mk.injEq, Target.item.injEq]
        constructor
        · rintro ⟨rfl, rfl⟩
          exact ⟨rfl, hitem⟩
        · rintro ⟨rfl, hget⟩
          exact ⟨rfl, Option.some.inj (hitem.symm.trans hget)⟩

end Disk

end ContentBlocker
