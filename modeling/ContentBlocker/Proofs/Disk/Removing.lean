import ContentBlocker.Proofs.Disk.CacheScan

/-!
# Clearing the cache

What can be listed in the directory of a cache is a file or a link to one, under the name of a list.
Clearing the cache removes just what stands under these names (`Cache.Removed`), after which nothing
is listed (`Cache.clear_removes`).

Every removal is by path, so the ways through links must stay open meanwhile
(`Cache.Removed.keepsWays`): a link that has been removed led to a file, so no way to a directory
goes through it. Links to files that have been removed are broken, and are not listed either.
-/

namespace ContentBlocker

variable {d e e' : Disk}

namespace Cache

variable {c : Cache} {f : CacheFile} {files : List CacheFile} {place : Place}

/-! ### Files that are listed -/

/-- A file that is listed has its name in the directory of the cache. -/
theorem exists_name_of_mem_files (hdirectory : c.directory ≠ "") (hfiles : c.files d = .ok files)
    (hf : f ∈ files) :
    f.identifier ≠ "" ∧ ∃ place item,
      d.get? (place ++ [.text (f.identifier ++ extension)]) = some item := by
  obtain ⟨names, hnames⟩ := exists_names_of_mem_files hfiles hf
  obtain ⟨hname, hne, _⟩ := (mem_files_iff_of_names hnames hfiles).mp hf
  obtain ⟨_, _, place, _, rfl⟩ := (listDirectory_eq_ok_iff hdirectory).mp hnames
  exact ⟨hne, place, Disk.mem_names_iff.mp hname⟩

theorem finds_of_mem_files (hdirectory : c.directory ≠ "") (htree : d.IsTree)
    (hfiles : c.files d = .ok files) (hf : f ∈ files) : c.Finds d f := by
  obtain ⟨_, place, item, hitem⟩ := exists_name_of_mem_files hdirectory hfiles hf
  have hname := htree.noSlash place _ item hitem
  rw [Bytes.holdsSlash, toList_fileName] at hname
  refine ⟨fun hslash => ?_, file_of_mem_files hfiles hf⟩
  rw [List.contains_iff_mem.mpr (List.mem_append_left _ hslash)] at hname
  cases hname

/-! ### Removing files -/

/-- Whether one disk is another one from which files have been removed, and nothing else. -/
structure Removed (c : Cache) (d : Disk) (files : List CacheFile) (e : Disk) : Prop where
  start : e.start = d.start
  gone : ∀ f ∈ files, ∀ place, c.BelongsAt d f.identifier place → e.get? place = none
  kept : ∀ place, (∀ f ∈ files, ¬c.BelongsAt d f.identifier place) →
    e.get? place = d.get? place

theorem Removed.nil (d : Disk) : c.Removed d [] d :=
  ⟨rfl, fun _ hf => absurd hf (List.not_mem_nil), fun _ _ => rfl⟩

/-- What is left was there before. -/
theorem Removed.get?_of_get? (h : c.Removed d files e) {item : Item}
    (hitem : e.get? place = some item) : d.get? place = some item := by
  rw [← hitem]
  refine (h.kept place fun f hf hbelongs => ?_).symm
  rw [h.gone f hf place hbelongs] at hitem
  cases hitem

theorem Removed.keeps (h : c.Removed d files e) : e.Keeps d :=
  ⟨h.start.symm, fun _ _ => h.get?_of_get?⟩

/-- Removing files breaks no way to a directory. -/
theorem Removed.keepsWays (h : c.Removed d files e) (hfinds : ∀ f ∈ files, c.Finds d f) :
    d.KeepsWays e where
  start := h.start
  directory place hplace := by
    rw [h.kept place fun f hf hbelongs => (hfinds f hf).ne_directory hbelongs hplace]
    exact hplace
  link links left place name goal target hlink hleads hgoal := by
    rw [h.kept (place ++ [name]) fun f hf hbelongs => ?_]
    · exact hlink
    · obtain ⟨content, modified, hfile⟩ := (hfinds f hf).isFile_of_leads hbelongs hleads
      rw [hgoal] at hfile
      cases hfile

/-- A file can only be removed from where it belongs. -/
theorem Removed.concat (htree : d.IsTree) (h : c.Removed d files e)
    (hfinds : ∀ f ∈ files, c.Finds d f) (hf : c.Finds d f)
    (hremove : e.removeFile (.text f.path) = .ok e') : c.Removed d (files ++ [f]) e' := by
  obtain ⟨stands, item, hitem, _, rfl⟩ := Disk.removeFile_eq_ok hremove
  obtain ⟨place, hbelongs⟩ := hf.exists_belongsAt
  have hstill := hbelongs.keep (h.keepsWays hfinds)
  obtain rfl : stands = place := by
    have hfind := (Disk.item_eq_ok_iff.mp hitem).1
    rw [(file_eq_ok_iff.mp hf.file).2.1, hstill.find_false_eq hf.noSlash] at hfind
    split at hfind
    · cases hfind
      rfl
    · cases hfind
  have hget : ∀ other, other ≠ [] →
      (e.erase stands).get? other = if stands <+: other then none else e.get? other :=
    fun _ => e.get?_erase stands
  refine ⟨h.start, fun g hg other hother => ?_, fun other hother => ?_⟩
  · rw [hget other hother.ne_root]
    split
    · rfl
    · rename_i hprefix
      rcases List.mem_append.mp hg with hg | hg
      · exact h.gone g hg other hother
      · obtain rfl := List.mem_singleton.mp hg
        rw [hbelongs.unique hother] at hprefix
        exact absurd (List.prefix_refl other) hprefix
  · have hkept := h.kept other fun g hg => hother g (List.mem_append_left _ hg)
    by_cases hroot : other = []
    · rw [← hkept, hroot]
      rfl
    · rw [hget other hroot]
      split
      · -- nothing stands below the file
        rename_i hprefix
        obtain ⟨below, rfl⟩ := hprefix
        have hbelow : below ≠ [] := by
          rintro rfl
          rw [List.append_nil] at hother
          exact hother f (List.mem_append_right _ (List.mem_singleton_self f)) hbelongs
        cases hthere : d.get? (stands ++ below) with
        | none => rfl
        | some item => exact absurd (htree.directory_above hbelow hthere) (hf.ne_directory hbelongs)
      · exact hkept

theorem Removed.append (htree : d.IsTree) {more : List CacheFile} (h : c.Removed d files e)
    (hfinds : ∀ f ∈ files ++ more, c.Finds d f) (hremove : removeAll e more = (.ok (), e')) :
    c.Removed d (files ++ more) e' := by
  induction more generalizing files e with
  | nil =>
    obtain ⟨_, rfl⟩ := Prod.mk.inj hremove
    rwa [List.append_nil]
  | cons f more ih =>
    rw [removeAll] at hremove
    split at hremove
    · cases hremove
    · rename_i hfirst
      rw [List.append_cons] at hfinds ⊢
      exact ih (h.concat htree (fun g hg => hfinds g (by simp [hg])) (hfinds f (by simp)) hfirst)
        hfinds hremove

theorem Removed.isTree (htree : d.IsTree) (h : c.Removed d files e)
    (hfinds : ∀ f ∈ files, c.Finds d f) : e.IsTree where
  directory place name item hitem :=
    (h.keepsWays hfinds).directory place (htree.directory place name item (h.get?_of_get? hitem))
  noSlash place name item hitem := htree.noSlash place name item (h.get?_of_get? hitem)

/-! ### Nothing is listed any more -/

/-- Once the files that are listed have been removed, no file is found. -/
theorem Removed.not_mem_files (hdirectory : c.directory ≠ "") (htree : d.IsTree)
    (hfiles : c.files d = .ok files) (h : c.Removed d files e) {left : List CacheFile}
    (hleft : c.files e = .ok left) : f ∉ left := by
  intro hf
  have hfinds := fun g hg => finds_of_mem_files (f := g) hdirectory htree hfiles hg
  have hfound := finds_of_mem_files hdirectory (h.isTree htree hfinds) hleft hf
  have hne := (exists_name_of_mem_files hdirectory hleft hf).1
  -- it was found before, so it was listed and has been removed
  have hbefore : c.file d f.identifier = .ok f := by
    obtain ⟨hid, hpath, hopened⟩ := file_eq_ok_iff.mp hfound.file
    exact file_eq_ok_iff.mpr ⟨hid, hpath, Disk.modified_mono hopened h.keeps⟩
  have hlisted := ((mem_files_iff hdirectory hfiles hfound.noSlash hne).mpr hbefore).1
  obtain ⟨place, hbelongs⟩ := (hfinds f hlisted).exists_belongsAt
  obtain ⟨place', item, hbelongs', hitem⟩ := exists_item_of_file hfound.noSlash hfound.file
  rw [hbelongs'.unique (hbelongs.keep (h.keepsWays hfinds)), h.gone f hlisted place hbelongs] at hitem
  cases hitem

theorem clear_eq_ok {count : Nat} (h : c.clear d = (.ok count, e)) :
    ∃ files, c.files d = .ok files ∧ count = files.length ∧ removeAll d files = (.ok (), e) := by
  unfold clear at h
  split at h
  · cases h
  · rename_i files hfiles
    rcases hremove : removeAll d files with ⟨cause | ⟨⟨⟩⟩, left⟩
    · rw [hremove] at h
      cases h
    · rw [hremove] at h
      obtain ⟨hcount, rfl⟩ := Prod.mk.inj h
      exact ⟨files, hfiles, (Except.ok.inj hcount).symm, hremove⟩

/-- Clearing a cache removes the files that are listed and nothing else, and then none is listed. -/
theorem clear_removes (hdirectory : c.directory ≠ "") (htree : d.IsTree) {count : Nat}
    (h : c.clear d = (.ok count, e)) :
    (∃ files, c.files d = .ok files ∧ count = files.length ∧ c.Removed d files e) ∧
      c.files e = .ok [] ∧ e.IsTree := by
  obtain ⟨files, hfiles, hcount, hremove⟩ := clear_eq_ok h
  have hfinds := fun g hg => finds_of_mem_files (f := g) hdirectory htree hfiles hg
  have hremoved := (Removed.nil d).append htree hfinds hremove
  rw [List.nil_append] at hremoved
  refine ⟨⟨files, hfiles, hcount, hremoved⟩, ?_, hremoved.isTree htree hfinds⟩
  obtain ⟨left, hleft⟩ : ∃ left, c.files e = .ok left := by
    unfold Cache.files at hfiles
    split at hfiles
    · rename_i names hnames
      obtain ⟨hparse, more, place, hstands, _⟩ := (listDirectory_eq_ok_iff hdirectory).mp hnames
      have hlist := (listDirectory_eq_ok_iff hdirectory).mpr
        ⟨hparse, more, place, hstands.keep (hremoved.keepsWays hfinds), rfl⟩
      unfold Cache.files
      rw [hlist]
      exact ⟨_, rfl⟩
    · -- the directory was missing
      rename_i hnone
      obtain rfl := Except.ok.inj hfiles
      obtain ⟨_, rfl⟩ := Prod.mk.inj hremove
      unfold Cache.files
      rw [hnone]
      exact ⟨[], rfl⟩
    · cases hfiles
  rw [hleft, List.eq_nil_iff_forall_not_mem.mpr fun f =>
    hremoved.not_mem_files hdirectory htree hfiles hleft]

end Cache

end ContentBlocker
