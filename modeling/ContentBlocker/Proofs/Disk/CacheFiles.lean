import ContentBlocker.Cache
import ContentBlocker.Proofs.Disk.Directories
import Mathlib.Data.List.Forall2
import Mathlib.Data.List.Nodup

/-!
# Where the cache keeps its files

On a disk without links the file of a list stands in the directory of the cache under the list's own
name (`place?_path`), so two lists whose identifiers differ never share a file. Writing a list
changes its file and makes directories (`write_spec`); clearing the cache brings nothing new.

A file is found by its path if it can be read (`file_eq_ok_iff`), and the files of some lists are used
if all of them are found and fresh (`check_eq_some_iff`).
-/

namespace ContentBlocker

/-! ### Paths of files -/

namespace Path

variable {directory name : String} (hname : '/' ∉ name.toList) (hne : name.toList ≠ [])

include hname

/-- A name without slashes is put behind the directory, and behind a slash. -/
theorem join_cases :
    ((join directory name).toList = directory.toList ++ name.toList ∧
        (directory.toList = [] ∨ directory.toList.getLast? = some '/')) ∨
      ((join directory name).toList = directory.toList ++ '/' :: name.toList ∧
        directory.toList ≠ []) := by
  have hhead : name.toList.head? ≠ some '/' := fun h => hname (List.mem_of_head? h)
  have hempty : directory.isEmpty = true ↔ directory.toList = [] := by
    rw [String.isEmpty_iff, String.toList_eq_nil_iff]
  unfold join
  rw [if_neg hhead]
  split
  · rename_i h
    rw [Bool.or_eq_true, decide_eq_true_eq, hempty] at h
    exact .inl ⟨String.toList_append, h⟩
  · rename_i h
    rw [Bool.or_eq_true, decide_eq_true_eq, hempty, not_or] at h
    exact .inr ⟨by simp, h.1⟩

theorem startsWithSlash_join :
    (Bytes.text (join directory name)).startsWithSlash =
      (Bytes.text directory).startsWithSlash := by
  have hhead : name.toList.head? ≠ some '/' := fun h => hname (List.mem_of_head? h)
  unfold Bytes.startsWithSlash
  dsimp only
  rcases join_cases hname with ⟨hjoin, _⟩ | ⟨hjoin, hdirectory⟩
  · rw [hjoin]
    cases directory.toList with
    | nil => simpa using hhead
    | cons => rfl
  · rw [hjoin]
    cases hlist : directory.toList with
    | nil => exact absurd hlist hdirectory
    | cons => rfl

include hne

theorem endsWithSlash_join : (Bytes.text (join directory name)).endsWithSlash = false := by
  obtain ⟨c, hc⟩ : ∃ c, name.toList.getLast? = some c :=
    ⟨_, List.getLast?_eq_some_getLast hne⟩
  have hslash : c ≠ '/' := by
    rintro rfl
    exact hname (List.mem_of_getLast? hc)
  unfold Bytes.endsWithSlash
  dsimp only
  rcases join_cases hname with ⟨hjoin, _⟩ | ⟨hjoin, _⟩
  · rw [hjoin, List.getLast?_append, hc]
    simpa using hslash
  · rw [hjoin, List.getLast?_append, List.getLast?_cons_of_ne_nil hne, hc]
    simpa using hslash

/-- The names on the way to a file in a directory are those to the directory and its own. -/
theorem splitAtSlashes_join :
    (Bytes.text (join directory name)).splitAtSlashes =
      (Bytes.text directory).splitAtSlashes ++ [.text name] := by
  have hsplit : (name.toList.splitOn '/').filter (!·.isEmpty) = [name.toList] := by
    rw [List.splitOn_eq_singleton hname]
    simp [hne]
  have hfilter : ((join directory name).toList.splitOn '/').filter (!·.isEmpty) =
      (directory.toList.splitOn '/').filter (!·.isEmpty) ++ [name.toList] := by
    rcases join_cases hname with ⟨hjoin, hempty | hslash⟩ | ⟨hjoin, _⟩
    · rw [hjoin, hempty, List.nil_append, hsplit]
      rfl
    · obtain ⟨above, habove⟩ := List.getLast?_eq_some_iff.mp hslash
      rw [hjoin, habove, List.append_assoc, List.singleton_append, List.splitOn_append_cons_self,
        List.splitOn_append_cons_self, List.filter_append, List.filter_append, hsplit]
      simp
    · rw [hjoin, List.splitOn_append_cons_self, List.filter_append, hsplit]
  unfold Bytes.splitAtSlashes
  dsimp only
  rw [hfilter, List.map_append, List.map_singleton, String.ofList_toList]

end Path

namespace Cache

variable (c : Cache) {d : Disk}

/-- The place of the directory of a cache. -/
def place (d : Disk) : Place :=
  Disk.resolve (if (Bytes.text c.directory).startsWithSlash then [] else d.start)
    (Bytes.text c.directory).splitAtSlashes

theorem toList_fileName (identifier : String) :
    (identifier ++ extension).toList = identifier.toList ++ ['.', 'j', 's', 'o', 'n'] := by
  have hextension : extension.toList = ['.', 'j', 's', 'o', 'n'] := by decide
  rw [String.toList_append, hextension]

theorem slash_not_mem_fileName {identifier : String} (hid : '/' ∉ identifier.toList) :
    '/' ∉ (identifier ++ extension).toList := by
  rw [toList_fileName]
  simpa using hid

theorem toList_fileName_ne_nil (identifier : String) : (identifier ++ extension).toList ≠ [] := by
  rw [toList_fileName]
  simp

/-- The name of a file is never a short one such as that of a directory itself. -/
theorem fileName_ne (identifier : String) {s : String} (hs : s.toList.length < 5) :
    Bytes.text (identifier ++ extension) ≠ .text s := by
  intro heq
  obtain rfl := Bytes.text.inj heq
  rw [toList_fileName, List.length_append] at hs
  exact absurd hs (by simp)

/-- The names that come from identifiers are those of the files of lists. -/
theorem identifierOf?_eq_some_iff {name : Bytes} {identifier : String} :
    identifierOf? name = some identifier ↔
      name = .text (identifier ++ extension) ∧ identifier ≠ "" := by
  cases name with
  | raw bytes => simp [identifierOf?]
  | text s =>
    unfold identifierOf?
    dsimp only
    constructor
    · intro h
      split at h
      · rename_i c stem hcut
        rw [List.isPrefixOf?_eq_some_iff_append_eq] at hcut
        have hname : s.toList = (c :: stem).reverse ++ extension.toList := by
          rw [← List.reverse_inj, ← hcut, List.reverse_append, List.reverse_reverse]
        obtain rfl := Option.some.inj h
        refine ⟨congrArg Bytes.text (String.toList_inj.mp ?_), fun hempty => ?_⟩
        · rw [hname, String.toList_append, String.toList_ofList]
        · simpa using congrArg String.toList hempty
      · cases h
    · rintro ⟨hname, hne⟩
      obtain rfl := Bytes.text.inj hname
      have hcut : extension.toList.reverse.isPrefixOf? (identifier ++ extension).toList.reverse =
          some identifier.toList.reverse := by
        rw [List.isPrefixOf?_eq_some_iff_append_eq, String.toList_append, List.reverse_append]
      rw [hcut]
      cases hstem : identifier.toList.reverse with
      | nil =>
        rw [List.reverse_eq_nil_iff, String.toList_eq_nil_iff] at hstem
        exact absurd hstem hne
      | cons last stem =>
        dsimp only
        rw [← hstem, List.reverse_reverse, String.ofList_toList]

/-- The file of a list stands in the directory under the list's own name. -/
theorem place?_path {identifier : String} (hid : '/' ∉ identifier.toList) {place : Place}
    (h : d.place? (.text (c.path identifier)) = some place) :
    place = c.place d ++ [.text (identifier ++ extension)] := by
  have hname := slash_not_mem_fileName hid
  have hne := toList_fileName_ne_nil identifier
  have hself : Bytes.text (identifier ++ extension) ≠ Path.self :=
    fileName_ne identifier (by decide)
  have hparent : Bytes.text (identifier ++ extension) ≠ Path.parent :=
    fileName_ne identifier (by decide)
  unfold Disk.place? at h
  split at h
  · rename_i p hparse
    obtain rfl := Path.parse_eq_ok hparse
    obtain rfl := Option.some.inj h
    unfold Path.steps Disk.startOf Cache.path Cache.place
    rw [Path.endsWithSlash_join hname hne, Path.startsWithSlash_join hname,
      Path.splitAtSlashes_join hname hne]
    dsimp only
    rw [if_neg Bool.false_ne_true, Disk.resolve_append, Disk.resolve, if_neg hself,
      if_neg hparent, Disk.resolve]
  · simp at h

/-- A list that has been written stands in its file; elsewhere there are new directories at most. -/
theorem write_spec (hd : d.NoLinks) {now : Int} {identifier encoded path : String} {d' : Disk}
    (h : c.write d now identifier encoded = (.ok path, d')) :
    ∃ place, d.place? (.text (c.path identifier)) = some place ∧ d'.start = d.start ∧
      d'.get? place = some (.file (.bytes (.text encoded)) now) ∧
      ∀ other item, other ≠ place → d'.get? other = some item →
        item = .directory ∨ d.get? other = some item := by
  unfold write at h
  -- the directory is made first; what that brings are directories only
  have hwithin := (d.makeDirectories_adds (.text c.directory)).within
  rcases hmake : d.makeDirectories (.text c.directory) with ⟨_ | ⟨⟨⟩⟩, made⟩
  · simp [hmake] at h
  · rw [hmake] at hwithin h
    dsimp only at hwithin h
    split at h
    · simp at h
    · rename_i written hwrite
      obtain ⟨_, rfl⟩ := Prod.mk.inj h
      obtain ⟨place, hplace, hroot, rfl⟩ := Disk.writeFile_spec (hwithin.noLinks hd) hwrite
      refine ⟨place, (Disk.place?_congr hwithin.1 _).symm.trans hplace, hwithin.1, ?_, ?_⟩
      · rw [Disk.get?_put _ hroot, if_pos rfl]
      · intro other item hother hitem
        rw [Disk.get?_put _ hroot, if_neg hother] at hitem
        exact hwithin.2 other item hitem

theorem noLinks_of_write (hd : d.NoLinks) {now : Int} {identifier encoded path : String} {d' : Disk}
    (h : c.write d now identifier encoded = (.ok path, d')) : d'.NoLinks := by
  obtain ⟨place, _, _, hwritten, hother⟩ := c.write_spec hd h
  intro other target hlink
  by_cases hhere : other = place
  · rw [hhere, hwritten] at hlink
    cases hlink
  · rcases hother other _ hhere hlink with hdir | hlink
    · cases hdir
    · exact hd other target hlink

theorem removeAll_within (files : List CacheFile) (d : Disk) : (removeAll d files).2.Within d := by
  induction files generalizing d with
  | nil => exact Disk.Within.refl d
  | cons f files ih =>
    rw [removeAll]
    split
    · exact Disk.Within.refl d
    · rename_i hremove
      exact (ih _).trans (Disk.removeFile_within hremove)

theorem clear_within (d : Disk) : (c.clear d).2.Within d := by
  unfold clear
  split
  · exact Disk.Within.refl d
  · exact removeAll_within _ d

/-! ### Fresh files -/

section Fresh

variable {c} {now : Int} {identifier : String} {f : CacheFile} {files : List CacheFile}

theorem fileAt_eq_ok_iff {path : String} :
    fileAt d identifier path = .ok f ↔
      f.identifier = identifier ∧ f.path = path ∧ d.modified (.text path) = .ok f.modified := by
  unfold fileAt
  cases d.modified (.text path) with
  | error cause => simp [bind, Except.bind]
  | ok modified =>
    obtain ⟨other, path, time⟩ := f
    simp [bind, Except.bind, eq_comm]

theorem file_eq_ok_iff :
    c.file d identifier = .ok f ↔ f.identifier = identifier ∧ f.path = c.path identifier ∧
      d.modified (.text (c.path identifier)) = .ok f.modified :=
  fileAt_eq_ok_iff

theorem isStale_eq_false_iff : c.isStale now f = false ↔ f.age now < c.retention := by
  simp [isStale]

theorem freshFile?_eq_some_iff :
    c.freshFile? d now identifier = some f ↔
      c.file d identifier = .ok f ∧ f.age now < c.retention := by
  rw [← isStale_eq_false_iff]
  unfold freshFile?
  cases c.file d identifier with
  | error cause => simp
  | ok g =>
    simp only [Except.ok.injEq]
    split
    · rename_i hstale
      constructor
      · intro h
        cases h
      · rintro ⟨rfl, hfresh⟩
        rw [hstale] at hfresh
        cases hfresh
    · rename_i hfresh
      rw [Bool.not_eq_true] at hfresh
      constructor
      · intro h
        obtain rfl := Option.some.inj h
        exact ⟨rfl, hfresh⟩
      · rintro ⟨rfl, _⟩
        rfl

/-- The files of some lists are used if each of them is fresh. -/
theorem check_eq_some_iff {identifiers : List String} :
    c.check d now identifiers = some files ↔
      List.Forall₂ (fun identifier f => c.freshFile? d now identifier = some f)
        identifiers files := by
  unfold check
  induction identifiers generalizing files with
  | nil => simp [eq_comm]
  | cons identifier identifiers ih =>
    rw [List.mapM_cons, List.forall₂_cons_left_iff]
    simp only [Option.bind_eq_bind, Option.bind_eq_some_iff, ← ih]
    constructor
    · rintro ⟨f, hf, rest, hrest, hfiles⟩
      exact ⟨f, rest, hf, hrest, (Option.some.inj hfiles).symm⟩
    · rintro ⟨f, rest, hf, hrest, rfl⟩
      exact ⟨f, hf, rest, hrest, rfl⟩

theorem exists_check_iff {identifiers : List String} :
    (∃ files, c.check d now identifiers = some files) ↔
      ∀ identifier ∈ identifiers, ∃ f, c.freshFile? d now identifier = some f := by
  simp only [check_eq_some_iff]
  induction identifiers with
  | nil => simp
  | cons identifier identifiers ih =>
    rw [List.forall_mem_cons, ← ih]
    constructor
    · rintro ⟨_, hfiles⟩
      cases hfiles with
      | cons hf hrest => exact ⟨⟨_, hf⟩, _, hrest⟩
    · rintro ⟨⟨f, hf⟩, files, hfiles⟩
      exact ⟨f :: files, .cons hf hfiles⟩

end Fresh

end Cache

end ContentBlocker
