import ContentBlocker.Proofs.Disk.CachePlaces

/-!
# Scanning the cache

The files of a cache are found in two ways: by the path made from an identifier, and by listing the
directory and reading identifiers off the names in it. Both find the same files
(`Cache.mem_files_iff`): a path that can be opened leads through the directory, so the directory can
be listed and the name is in it; and a name comes from the identifier that it is made from.

A file that is found is a file in the directory or a link that leads to one
(`Cache.Finds.isFile_of_leads`), never a directory.
-/

namespace ContentBlocker

variable {d : Disk} {name : Bytes} {place : Place}

/-! ### Names in a directory -/

namespace Disk

theorem childName?_eq_some_iff {other : Place} :
    childName? place other = some name ↔ other = place ++ [name] := by
  unfold childName?
  constructor
  · intro h
    split at h
    · rename_i hrest
      obtain rfl := Option.some.inj h
      exact (List.isPrefixOf?_eq_some_iff_append_eq.mp hrest).symm
    · cases h
  · rintro rfl
    rw [List.isPrefixOf?_eq_some_iff_append_eq.mpr rfl]

/-- A name is in a directory if something stands under it. -/
theorem mem_names_iff : name ∈ d.names place ↔ ∃ item, d.get? (place ++ [name]) = some item := by
  have hget : d.get? (place ++ [name]) = d.items.lookup (place ++ [name]) := by
    rw [get?, if_neg (by simp)]
  rw [names, List.mem_filterMap, hget, ← Option.isSome_iff_exists, List.lookup_isSome_iff]
  constructor
  · rintro ⟨entry, hentry, hname⟩
    exact ⟨entry, hentry, beq_iff_eq.mpr (childName?_eq_some_iff.mp hname).symm⟩
  · rintro ⟨entry, hentry, hplace⟩
    exact ⟨entry, hentry, childName?_eq_some_iff.mpr (beq_iff_eq.mp hplace).symm⟩

/-- A step from a directory to itself may be added at the end of a way. -/
theorem leads_concat_self_iff (hplace : d.get? place = some .directory) {links left : Nat}
    {start : Place} {names : List Bytes} :
    d.Leads links start (names ++ [Path.self]) left place ↔ d.Leads links start names left place := by
  constructor
  · intro h
    obtain ⟨more, middle, hnames, hlast⟩ := h.split
    generalize hself : [Path.self] = rest at hlast
    cases hlast with
    | nil => cases hself
    | self _ hrest =>
      obtain rfl := (List.cons.inj hself).2
      cases hrest
      exact hnames
    | parent => exact absurd (List.cons.inj hself).1 (by decide)
    | enter _ hname => exact absurd (List.cons.inj hself).1.symm hname.ne_self
    | link _ hname => exact absurd (List.cons.inj hself).1.symm hname.ne_self
  · exact fun h => h.append (.self hplace .nil)

end Disk

namespace Path

/-- A directory has a path if something in it has one. -/
theorem parse_of_join {directory name : String} (hname : '/' ∉ name.toList) {p : Path}
    (h : parse (.text (join directory name)) = .ok p) : ∃ p, parse (.text directory) = .ok p := by
  obtain ⟨rest, hjoin⟩ : ∃ rest, join directory name = directory ++ rest := by
    rcases @join_cases directory name hname with ⟨hjoin, _⟩ | ⟨hjoin, _⟩
    · exact ⟨name, String.toList_inj.mp (by rw [hjoin, String.toList_append])⟩
    · refine ⟨"/" ++ name, String.toList_inj.mp ?_⟩
      rw [hjoin, String.toList_append, String.toList_append]
      rfl
  unfold parse at h ⊢
  rw [hjoin] at h
  split at h
  · cases h
  · rename_i hzero
    split at h
    · cases h
    · rename_i hsize
      have hzero' : ¬(Bytes.text directory).holdsZero = true := by
        simp only [Bytes.holdsZero, String.toList_append, List.contains_append,
          Bool.or_eq_true] at hzero ⊢
        exact fun h => hzero (.inl h)
      have hsize' : ¬sizeLimit ≤ (Bytes.text directory).size := by
        simp only [Bytes.size, String.utf8ByteSize_append] at hsize ⊢
        omega
      rw [if_neg hzero', if_neg hsize']
      exact ⟨_, rfl⟩

end Path

namespace Cache

variable {c : Cache} {identifier : String} {f : CacheFile} {files : List CacheFile}

/-! ### The directory -/

theorem isEmpty_eq_false {directory : String} (hdirectory : directory ≠ "") {p : Path}
    (h : Path.parse (.text directory) = .ok p) : p.isEmpty = false := by
  obtain rfl := Path.parse_eq_ok h
  unfold Path.isEmpty Bytes.startsWithSlash Bytes.splitAtSlashes
  dsimp only
  cases hlist : directory.toList with
  | nil => exact absurd (String.toList_eq_nil_iff.mp hlist) hdirectory
  | cons first rest =>
    by_cases hslash : first = '/'
    · simp [hslash]
    · -- the first piece holds the first character
      have hsplit : (first :: rest).splitOn '/' =
          ((rest.splitOn '/').modifyHead (first :: ·)) := by
        unfold List.splitOn
        rw [List.splitOnP_cons_eq_if_modifyHead, if_neg (by simpa using hslash)]
      rw [hsplit]
      cases hrest : rest.splitOn '/' with
      | nil => exact absurd hrest (List.splitOn_ne_nil '/' rest)
      | cons piece pieces => simp

/-- A slash at the end of the path of the directory makes no difference if it leads to one. -/
theorem leads_steps_iff {p : Path} (hparse : Path.parse (.text c.directory) = .ok p)
    (hplace : d.get? place = some .directory) {left : Nat} :
    d.Leads Disk.linkLimit (d.startOf p) p.steps left place ↔
      d.Leads Disk.linkLimit (if (Bytes.text c.directory).startsWithSlash then [] else d.start)
        (Bytes.text c.directory).splitAtSlashes left place := by
  obtain rfl := Path.parse_eq_ok hparse
  unfold Path.steps Disk.startOf
  dsimp only
  cases (Bytes.text c.directory).endsWithSlash with
  | true => exact Disk.leads_concat_self_iff hplace
  | false => rfl

/-- The path of the directory leads to a directory if the directory of the cache stands there. -/
theorem item_directory_iff (hdirectory : c.directory ≠ "") :
    d.item true (.text c.directory) = .ok (place, .directory) ↔
      (∃ p, Path.parse (.text c.directory) = .ok p) ∧ ∃ left, c.StandsAt d left place := by
  rw [Disk.item_eq_ok_iff, Disk.find_eq_item_iff]
  constructor
  · rintro ⟨⟨p, hparse, _, left, hleads⟩, hplace⟩
    exact ⟨⟨p, hparse⟩, left, (leads_steps_iff hparse hplace).mp hleads, hplace⟩
  · rintro ⟨⟨p, hparse⟩, left, hleads, hplace⟩
    exact ⟨⟨p, hparse, isEmpty_eq_false hdirectory hparse, left,
      (leads_steps_iff hparse hplace).mpr hleads⟩, hplace⟩

/-- The names that are listed are those in the directory of the cache. -/
theorem listDirectory_eq_ok_iff (hdirectory : c.directory ≠ "") {names : List Bytes} :
    d.listDirectory (.text c.directory) = .ok names ↔
      (∃ p, Path.parse (.text c.directory) = .ok p) ∧
        ∃ left place, c.StandsAt d left place ∧ names = d.names place := by
  have hitem : d.listDirectory (.text c.directory) = .ok names ↔
      ∃ place, d.item true (.text c.directory) = .ok (place, .directory) ∧
        names = d.names place := by
    unfold Disk.listDirectory
    cases d.item true (.text c.directory) with
    | error cause => simp [bind, Except.bind]
    | ok found =>
      obtain ⟨place, item⟩ := found
      cases item <;> simp [bind, Except.bind, eq_comm]
  rw [hitem]
  simp only [item_directory_iff hdirectory]
  constructor
  · rintro ⟨place, ⟨hparse, left, hstands⟩, hnames⟩
    exact ⟨hparse, left, place, hstands, hnames⟩
  · rintro ⟨hparse, left, place, hstands, hnames⟩
    exact ⟨place, ⟨hparse, left, hstands⟩, hnames⟩

/-! ### Files -/

/-- A file that can be opened stands, or is linked to, in the directory of the cache. -/
theorem exists_item_of_file (hid : '/' ∉ identifier.toList) (h : c.file d identifier = .ok f) :
    ∃ place item, c.BelongsAt d identifier place ∧ d.get? place = some item := by
  obtain ⟨_, _, hopened⟩ := file_eq_ok_iff.mp h
  obtain ⟨goal, _, hfind, _⟩ := Disk.modified_iff.mp hopened
  obtain ⟨place, hbelongs⟩ := exists_belongsAt_of_find hid hfind
  refine ⟨place, ?_⟩
  obtain ⟨left, directory, hstands, rfl, hfollow⟩ := hbelongs.find_eq_follow hid
  cases hitem : d.get? (directory ++ [.text (identifier ++ extension)]) with
  | some item => exact ⟨item, hbelongs, rfl⟩
  | none =>
    rw [hfollow, Disk.follow_name hstands hbelongs.isName, hitem] at hfind
    cases hfind

/-- Whether a file is found by its path, under the identifier of a list. -/
structure Finds (c : Cache) (d : Disk) (f : CacheFile) : Prop where
  noSlash : '/' ∉ f.identifier.toList
  file : c.file d f.identifier = .ok f

theorem Finds.exists_belongsAt (h : c.Finds d f) : ∃ place, c.BelongsAt d f.identifier place := by
  obtain ⟨place, _, hbelongs, _⟩ := exists_item_of_file h.noSlash h.file
  exact ⟨place, hbelongs⟩

/-- The name of a file that is found leads to a file, if need be through links. -/
theorem Finds.isFile_of_leads (h : c.Finds d f) {name : Bytes}
    (hbelongs : c.BelongsAt d f.identifier (place ++ [name])) {links left : Nat} {goal : Place}
    (hleads : d.Leads links place [name] left goal) :
    ∃ content modified, d.get? goal = some (.file content modified) := by
  obtain ⟨_, _, hopened⟩ := file_eq_ok_iff.mp h.file
  obtain ⟨found, content, hfind, hfile⟩ := Disk.modified_iff.mp hopened
  obtain ⟨_, directory, _, hplace, hfollow⟩ := hbelongs.find_eq_follow h.noSlash
  obtain ⟨rfl, hname⟩ := List.append_inj' hplace rfl
  rw [hfollow, ← hname, Disk.follow_eq_item_iff] at hfind
  obtain ⟨_, hleads'⟩ := hfind
  rw [hleads'.unique hleads] at hfile
  exact ⟨content, f.modified, hfile⟩

theorem Finds.ne_directory (h : c.Finds d f) (hbelongs : c.BelongsAt d f.identifier place) :
    d.get? place ≠ some .directory := by
  intro hdirectory
  obtain ⟨_, above, hstands, rfl⟩ := hbelongs.inDirectory
  have henter : d.Leads 0 above [.text (f.identifier ++ extension)] 0
      (above ++ [.text (f.identifier ++ extension)]) :=
    .enter hstands.directory hbelongs.isName hdirectory (by simp) .nil
  obtain ⟨content, modified, hfile⟩ := h.isFile_of_leads hbelongs henter
  rw [hdirectory] at hfile
  cases hfile

/-! ### Listing -/

/-- The path of a name in the directory is that of the list whose identifier it comes from. -/
theorem join_eq_path {name : String} (h : identifierOf? (.text name) = some identifier) :
    Path.join c.directory name = c.path identifier := by
  obtain ⟨hname, _⟩ := identifierOf?_eq_some_iff.mp h
  rw [Bytes.text.inj hname]
  rfl

/-- The file with the name of a list is the file of the list. -/
theorem fileOfName?_eq_toOption {name : Bytes} (h : identifierOf? name = some identifier) :
    c.fileOfName? d name = (c.file d identifier).toOption := by
  obtain ⟨rfl, _⟩ := identifierOf?_eq_some_iff.mp h
  unfold fileOfName?
  rw [h]
  show (fileAt d identifier (Path.join c.directory _)).toOption = _
  rw [join_eq_path h]
  rfl

theorem fileOfName?_eq_some_iff {name : Bytes} :
    c.fileOfName? d name = some f ↔
      name = .text (f.identifier ++ extension) ∧ f.identifier ≠ "" ∧
        c.file d f.identifier = .ok f := by
  cases hidentifier : identifierOf? name with
  | none =>
    have hnone : c.fileOfName? d name = none := by
      unfold fileOfName?
      rw [hidentifier]
      rfl
    rw [hnone]
    refine iff_of_false (by simp) ?_
    rintro ⟨rfl, hne, _⟩
    rw [identifierOf?_eq_some_iff.mpr ⟨rfl, hne⟩] at hidentifier
    cases hidentifier
  | some identifier =>
    have hopened : (c.file d identifier).toOption = some f ↔ c.file d identifier = .ok f := by
      cases c.file d identifier <;> simp [Except.toOption]
    obtain ⟨rfl, hne⟩ := identifierOf?_eq_some_iff.mp hidentifier
    rw [fileOfName?_eq_toOption hidentifier, hopened]
    constructor
    · intro hfile
      obtain rfl := (file_eq_ok_iff.mp hfile).1
      exact ⟨rfl, hne, hfile⟩
    · rintro ⟨hname, _, hfile⟩
      have hsame : identifier ++ extension = f.identifier ++ extension := Bytes.text.inj hname
      obtain rfl : identifier = f.identifier := by simpa using hsame
      exact hfile

/-- The files that are listed are those whose names are in the directory. -/
theorem mem_files_iff_of_names {names : List Bytes}
    (hnames : d.listDirectory (.text c.directory) = .ok names) (hfiles : c.files d = .ok files) :
    f ∈ files ↔ .text (f.identifier ++ extension) ∈ names ∧ f.identifier ≠ "" ∧
      c.file d f.identifier = .ok f := by
  unfold Cache.files at hfiles
  rw [hnames] at hfiles
  obtain rfl := Except.ok.inj hfiles
  rw [List.mem_mergeSort, List.mem_filterMap]
  simp only [fileOfName?_eq_some_iff]
  constructor
  · rintro ⟨_, hname, rfl, hfile⟩
    exact ⟨hname, hfile⟩
  · rintro ⟨hname, hfile⟩
    exact ⟨_, hname, rfl, hfile⟩

/-- Nothing is listed if there is no directory. -/
theorem exists_names_of_mem_files (hfiles : c.files d = .ok files) (hf : f ∈ files) :
    ∃ names, d.listDirectory (.text c.directory) = .ok names := by
  unfold Cache.files at hfiles
  split at hfiles
  · exact ⟨_, ‹_›⟩
  · obtain rfl := Except.ok.inj hfiles
    cases hf
  · cases hfiles

/-- A file that is found by listing is found by its path. -/
theorem file_of_mem_files (hfiles : c.files d = .ok files) (hf : f ∈ files) :
    c.file d f.identifier = .ok f := by
  obtain ⟨names, hnames⟩ := exists_names_of_mem_files hfiles hf
  exact ((mem_files_iff_of_names hnames hfiles).mp hf).2.2

/-- Listing the directory finds the files that are found by their paths. -/
theorem mem_files_iff (hdirectory : c.directory ≠ "") (hfiles : c.files d = .ok files)
    (hid : '/' ∉ identifier.toList) (hne : identifier ≠ "") :
    f ∈ files ∧ f.identifier = identifier ↔ c.file d identifier = .ok f := by
  constructor
  · rintro ⟨hf, rfl⟩
    exact file_of_mem_files hfiles hf
  · intro hfile
    obtain ⟨place, item, ⟨⟨p, hparse⟩, hname, left, directory, hstands, rfl⟩, hitem⟩ :=
      exists_item_of_file hid hfile
    have hnames : d.listDirectory (.text c.directory) = .ok (d.names directory) :=
      (listDirectory_eq_ok_iff hdirectory).mpr
        ⟨Path.parse_of_join (slash_not_mem_fileName hid) hparse, left, directory, hstands, rfl⟩
    obtain rfl := (file_eq_ok_iff.mp hfile).1
    exact ⟨(mem_files_iff_of_names hnames hfiles).mpr
      ⟨Disk.mem_names_iff.mpr ⟨item, hitem⟩, hne, hfile⟩, rfl⟩

end Cache

end ContentBlocker
