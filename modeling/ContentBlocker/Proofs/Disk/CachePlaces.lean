import ContentBlocker.Proofs.Disk.CacheFiles

/-!
# Where the files of the cache belong

The directory of the cache may be reached through links. The file of a list belongs in it under the
list's own name (`Cache.BelongsAt`), which no other list has, and stays where it belongs while
directories and links are kept. If no link stands there, that is where the path of the file leads
(`Cache.BelongsAt.find_eq`), and what is read is what stands there (`Cache.readFile_eq_ok_iff`).
-/

namespace ContentBlocker

namespace Cache

variable (c : Cache) {d e : Disk} {identifier : String} {place : Place}

/-! ### Where a file belongs -/

/-- Whether the directory of a cache stands at a place, and so many links may be followed from
there. -/
structure StandsAt (d : Disk) (left : Nat) (place : Place) : Prop where
  leads : d.Leads Disk.linkLimit
    (if (Bytes.text c.directory).startsWithSlash then [] else d.start)
    (Bytes.text c.directory).splitAtSlashes left place
  directory : d.get? place = some .directory

/-- Whether the file of a list belongs at a place: in the directory of the cache, under the list's
own name. -/
structure BelongsAt (d : Disk) (identifier : String) (place : Place) : Prop where
  parses : ∃ path, Path.parse (.text (c.path identifier)) = .ok path
  isName : Disk.IsName (.text (identifier ++ extension))
  inDirectory : ∃ left directory, c.StandsAt d left directory ∧
    place = directory ++ [.text (identifier ++ extension)]

variable {c}

theorem StandsAt.unique {left left' : Nat} {place' : Place} (h : c.StandsAt d left place)
    (h' : c.StandsAt d left' place') : place = place' :=
  h.leads.unique h'.leads

theorem StandsAt.keep {left : Nat} (h : c.StandsAt d left place) (he : d.KeepsWays e) :
    c.StandsAt e left place := by
  refine ⟨?_, he.directory place h.directory⟩
  rw [he.start]
  exact h.leads.keep h.directory he

theorem BelongsAt.keep (h : c.BelongsAt d identifier place) (he : d.KeepsWays e) :
    c.BelongsAt e identifier place := by
  obtain ⟨left, directory, hstands, hplace⟩ := h.inDirectory
  exact ⟨h.parses, h.isName, left, directory, hstands.keep he, hplace⟩

theorem BelongsAt.extend (h : c.BelongsAt d identifier place) (he : d.Extends e) :
    c.BelongsAt e identifier place :=
  h.keep he.keepsWays

/-- Where one file belongs that does, all belong that did before. -/
theorem BelongsAt.of_extends {other : String} {place' : Place} (h : c.BelongsAt d other place')
    (he : d.Extends e) (h' : c.BelongsAt e identifier place) : c.BelongsAt d identifier place := by
  obtain ⟨left, directory, hstands, _⟩ := h.inDirectory
  obtain ⟨_, directory', hstands', hplace⟩ := h'.inDirectory
  obtain rfl := (hstands.keep he.keepsWays).unique hstands'
  exact ⟨h'.parses, h'.isName, left, directory, hstands, hplace⟩

theorem BelongsAt.unique {place' : Place} (h : c.BelongsAt d identifier place)
    (h' : c.BelongsAt d identifier place') : place = place' := by
  obtain ⟨_, _, hstands, rfl⟩ := h.inDirectory
  obtain ⟨_, _, hstands', rfl⟩ := h'.inDirectory
  rw [hstands.unique hstands']

/-- The files of different lists belong at different places. -/
theorem BelongsAt.identifier_eq {other : String} (h : c.BelongsAt d identifier place)
    (h' : c.BelongsAt d other place) : identifier = other := by
  obtain ⟨_, _, _, rfl⟩ := h.inDirectory
  obtain ⟨_, _, _, hplace⟩ := h'.inDirectory
  have hlast := (List.append_inj' hplace rfl).2
  have htext : identifier ++ extension = other ++ extension := by
    simpa using hlast
  simpa using htext

theorem BelongsAt.ne_root (h : c.BelongsAt d identifier place) : place ≠ [] := by
  obtain ⟨_, _, _, rfl⟩ := h.inDirectory
  simp

variable (hid : '/' ∉ identifier.toList)

include hid

theorem find_path {path : Path} (hparse : Path.parse (.text (c.path identifier)) = .ok path)
    (followLast : Bool) :
    d.find followLast (.text (c.path identifier)) =
      d.follow followLast Disk.linkLimit
        (if (Bytes.text c.directory).startsWithSlash then [] else d.start)
        ((Bytes.text c.directory).splitAtSlashes ++ [.text (identifier ++ extension)]) := by
  have hname := slash_not_mem_fileName hid
  have hne := toList_fileName_ne_nil identifier
  unfold Disk.find
  rw [hparse]
  obtain rfl := Path.parse_eq_ok hparse
  unfold Disk.startOf Path.steps Path.isEmpty Cache.path
  rw [Path.endsWithSlash_join hname hne, Path.startsWithSlash_join hname,
    Path.splitAtSlashes_join hname hne]
  simp [bind, Except.bind]

theorem BelongsAt.find_eq_follow (h : c.BelongsAt d identifier place) :
    ∃ left directory, d.get? directory = some .directory ∧
      place = directory ++ [.text (identifier ++ extension)] ∧
      ∀ followLast, d.find followLast (.text (c.path identifier)) =
        d.follow followLast left directory [.text (identifier ++ extension)] := by
  obtain ⟨path, hparse⟩ := h.parses
  obtain ⟨left, directory, hstands, hplace⟩ := h.inDirectory
  refine ⟨left, directory, hstands.directory, hplace, fun followLast => ?_⟩
  rw [find_path hid hparse, hstands.leads.follow_append (.inl (by simp))]

/-- The path of a file leads to the place where it belongs, if no link stands there. -/
theorem BelongsAt.find_eq (h : c.BelongsAt d identifier place)
    (hlink : ∀ target, d.get? place ≠ some (.link target)) (followLast : Bool) :
    d.find followLast (.text (c.path identifier)) =
      .ok (if (d.get? place).isSome then .item place else .free place) := by
  obtain ⟨left, directory, hdirectory, rfl, hfind⟩ := h.find_eq_follow hid
  rw [hfind, Disk.follow_last hdirectory h.isName hlink]

theorem BelongsAt.find_eq_of_link (h : c.BelongsAt d identifier place) {target : Bytes}
    (hlink : d.get? place = some (.link target)) :
    d.find false (.text (c.path identifier)) = .ok (.item place) := by
  obtain ⟨left, directory, hdirectory, rfl, hfind⟩ := h.find_eq_follow hid
  rw [hfind, Disk.follow_last_of_link hdirectory h.isName hlink]

/-- The path of a file leads to the place where it belongs, if a link there is not followed. -/
theorem BelongsAt.find_false_eq (h : c.BelongsAt d identifier place) :
    d.find false (.text (c.path identifier)) =
      .ok (if (d.get? place).isSome then .item place else .free place) := by
  by_cases hlink : ∃ target, d.get? place = some (.link target)
  · obtain ⟨target, hlink⟩ := hlink
    rw [h.find_eq_of_link hid hlink, hlink]
    rfl
  · exact h.find_eq hid (fun target htarget => hlink ⟨target, htarget⟩) false

theorem BelongsAt.item_eq_of_link (h : c.BelongsAt d identifier place) {target : Bytes}
    (hlink : d.get? place = some (.link target)) :
    d.item false (.text (c.path identifier)) = .ok (place, .link target) :=
  Disk.item_eq_ok_iff.mpr ⟨h.find_eq_of_link hid hlink, hlink⟩

/-- Where the path of a file leads to a place at all, there is one where the file belongs. -/
theorem exists_belongsAt_of_find {followLast : Bool} {target : Target}
    (h : d.find followLast (.text (c.path identifier)) = .ok target) :
    ∃ place, c.BelongsAt d identifier place := by
  cases hparse : Path.parse (.text (c.path identifier)) with
  | error cause =>
    unfold Disk.find at h
    rw [hparse] at h
    cases h
  | ok path =>
    rw [find_path hid hparse] at h
    obtain ⟨left, directory, hleads, hlast⟩ := Disk.leads_of_follow h (by simp)
    obtain ⟨hdirectory, hself | hparent | hname⟩ := Disk.directory_of_follow hlast
    · exact absurd hself (fileName_ne identifier (by decide))
    · exact absurd hparent (fileName_ne identifier (by decide))
    · exact ⟨_, ⟨path, hparse⟩, hname, left, directory, ⟨hleads, hdirectory⟩, rfl⟩

section Plain

variable (hlink : ∀ place, c.BelongsAt d identifier place →
  ∀ target, d.get? place ≠ some (.link target))

include hlink

/-- The path leads to the place where the file belongs, if no link stands there. -/
theorem item_eq_ok_iff {place : Place} {item : Item} :
    d.item true (.text (c.path identifier)) = .ok (place, item) ↔
      c.BelongsAt d identifier place ∧ d.get? place = some item := by
  rw [Disk.item_eq_ok_iff]
  refine and_congr_left fun hitem => ⟨fun hfind => ?_, fun hbelongs => ?_⟩
  · obtain ⟨stands, hbelongs⟩ := exists_belongsAt_of_find hid hfind
    rw [hbelongs.find_eq hid (hlink stands hbelongs)] at hfind
    split at hfind
    · cases hfind
      exact hbelongs
    · cases hfind
  · rw [hbelongs.find_eq hid (hlink place hbelongs), hitem]
    rfl

/-- What is read is the file at the place where it belongs, if no link stands there. -/
theorem readFile_eq_ok_iff {content : Bytes} {modified : Int} :
    d.readFile (.text (c.path identifier)) = .ok (content, modified) ↔
      ∃ place, c.BelongsAt d identifier place ∧
        d.get? place = some (.file (.bytes content) modified) := by
  simp only [Disk.readFile_iff, ← Disk.item_eq_ok_iff, item_eq_ok_iff hid hlink]

end Plain

end Cache

end ContentBlocker
