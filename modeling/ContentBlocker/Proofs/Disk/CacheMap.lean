import ContentBlocker.Proofs.Disk.CacheScan
import ContentBlocker.Proofs.Disk.CacheWrites
import ContentBlocker.Proofs.Source.Files
import ContentBlocker.Proofs.Text.Trimming

/-!
# The cache as a map

A directory in which nothing has the name of a file of a list is, after some lists have been written
to it, a map from the identifiers to the texts written last (`Cache.files_writeAll`). So is one that
is missing, as long as its path takes no step to the directory above.

A path that takes such a step can be missing only because a directory on its way is. Once that one
has been made, it leads to a directory that was there all the time and may hold files of lists
(`Cache.old_list_is_listed`). What the proofs start from is therefore what stands in the directory
once it has been made (`Cache.MadeClear`), and `Cache.StartsClear.madeClear` says which directories
are clear then.

What is listed has been written: besides the files of lists, only directories on the way to the
directory can be new, and they are no files (`Cache.MadeClear.get?_of_not_written`). Each is listed
once, because a place that is new occurs once on the disk (`Cache.distinct_writeEach`).
-/

namespace ContentBlocker

/-! ### New places -/

theorem Bytes.holdsSlash_of_mem_splitAtSlashes {text : String} {name : Bytes}
    (h : name ∈ (Bytes.text text).splitAtSlashes) : name.holdsSlash = false := by
  obtain ⟨piece, hpiece, rfl⟩ := List.mem_map.mp h
  have hslash := Text.not_mem_of_mem_splitOn (List.mem_filter.mp hpiece).1
  rw [Bytes.holdsSlash, String.toList_ofList]
  simpa using hslash

namespace Disk

variable {d : Disk} {place : Place} {keep : Place → Bool}

/-- Whether no place of some kind occurs twice in the list of what stands on a disk. -/
def Distinct (d : Disk) (keep : Place → Bool) : Prop :=
  ((d.items.map (·.1)).filter keep).Nodup

theorem Distinct.put (h : d.Distinct keep) (place : Place) (item : Item) :
    (d.put place item).Distinct keep := by
  have hrest : (((d.items.filter (·.1 != place)).map (·.1)).filter keep).Nodup :=
    h.sublist ((List.filter_sublist.map _).filter _)
  unfold Distinct Disk.put
  rw [List.map_cons, List.filter_cons]
  split
  · refine List.nodup_cons.mpr ⟨fun hmem => ?_, hrest⟩
    obtain ⟨entry, hentry, hplace⟩ := List.mem_map.mp (List.mem_filter.mp hmem).1
    simpa [hplace] using (List.mem_filter.mp hentry).2
  · exact hrest

/-- No place where nothing stands is in the list at all. -/
theorem distinct_free (d : Disk) : d.Distinct fun place => (d.get? place).isNone := by
  have hnone : (d.items.map (·.1)).filter (fun place => (d.get? place).isNone) = [] := by
    rw [List.filter_eq_nil_iff]
    intro place hmem hfree
    have hget : d.get? place = none := by simpa using hfree
    obtain ⟨entry, hentry, rfl⟩ := List.mem_map.mp hmem
    rw [get?, if_neg (ne_root_of_free hget), List.lookup_eq_none_iff] at hget
    simpa using hget entry hentry
  unfold Distinct
  rw [hnone]
  exact .nil

/-- Names of places that occur once are listed once. -/
theorem Distinct.names (h : d.Distinct keep) (place : Place) :
    ((d.names place).filter fun name => keep (place ++ [name])).Nodup := by
  have hnames : (d.names place).filter (fun name => keep (place ++ [name])) =
      ((d.items.map (·.1)).filter keep).filterMap (childName? place) := by
    rw [Disk.names, List.filter_filterMap, List.filterMap_filter, List.filterMap_map]
    refine List.filterMap_congr ?_
    rintro ⟨other, item⟩ _
    dsimp only [Function.comp]
    cases hname : childName? place other with
    | none => simp
    | some name =>
      obtain rfl := childName?_eq_some_iff.mp hname
      rfl
  rw [hnames]
  refine h.filterMap fun a b name ha hb => ?_
  rw [Option.mem_def, childName?_eq_some_iff] at ha hb
  rw [ha, hb]

end Disk

namespace Cache

variable {c : Cache} {d e : Disk} {place : Place} {identifier : String} {keep : Place → Bool}
  {lists : List Write}

/-- What is new once the directory has been made is a directory, under a name without slashes. -/
theorem get?_made_cases {name : Bytes} {item : Item}
    (h : (c.made d).get? (place ++ [name]) = some item) :
    d.get? (place ++ [name]) = some item ∨ item = .directory ∧ name.holdsSlash = false := by
  refine Disk.makeDirectories_preserves
    (P := fun e => ∀ place name item, e.get? (place ++ [name]) = some item →
      d.get? (place ++ [name]) = some item ∨ item = .directory ∧ name.holdsSlash = false)
    (fun e above made hmade _ he => ?_) (fun _ _ _ hitem => .inl hitem) place name item h
  intro place name item hitem
  rw [Disk.get?_put e (by simp)] at hitem
  split at hitem
  · rename_i hplace
    obtain rfl := (List.cons.inj (List.append_inj' hplace rfl).2).1
    exact .inr ⟨(Option.some.inj hitem).symm, Bytes.holdsSlash_of_mem_splitAtSlashes hmade⟩
  · exact he place name item hitem

theorem distinct_made (h : d.Distinct keep) : (c.made d).Distinct keep :=
  Disk.makeDirectories_preserves (P := fun e => e.Distinct keep)
    (fun _ place name _ _ he => he.put (place ++ [name]) .directory) h

theorem distinct_writeEach (h : d.Distinct keep) (lists : List Write) :
    (c.writeEach d lists).Distinct keep := by
  induction lists generalizing d with
  | nil => exact h
  | cons x lists ih =>
    have hfirst : (c.write d x.time x.identifier x.encoded).2.Distinct keep := by
      cases htarget : c.target? d x.identifier with
      | none =>
        obtain ⟨cause, hwrite⟩ := write_of_no_target htarget x.time x.encoded
        rw [hwrite]
        exact distinct_made h
      | some place =>
        rw [write_of_target htarget]
        exact (distinct_made h).put place _
    exact ih hfirst

/-! ### Writing lists that all can be written -/

variable (c) in
/-- The disk after lists have been written one after the other, if all could be. -/
def writeAll (d : Disk) : List Write → Except DiskError Disk
  | [] => .ok d
  | x :: lists =>
    match c.write d x.time x.identifier x.encoded with
    | (.error e, _) => .error e
    | (.ok _, d) => writeAll d lists

theorem writeAll_eq_ok (hplain : c.ArePlain d (lists.map (·.identifier)))
    (h : c.writeAll d lists = .ok e) :
    e = c.writeEach d lists ∧ ∀ x ∈ lists, ∃ place, c.target? d x.identifier = some place := by
  induction lists generalizing d with
  | nil =>
    obtain rfl := Except.ok.inj h
    exact ⟨rfl, fun _ hx => absurd hx List.not_mem_nil⟩
  | cons x lists ih =>
    obtain ⟨hid, hplain'⟩ := hplain x.identifier (List.mem_cons_self ..)
    have hwritten := written_write hid hplain' x.time x.encoded
    rw [writeAll] at h
    split at h
    · cases h
    · rename_i path next hwrite
      have hnext : (c.write d x.time x.identifier x.encoded).2 = next := congrArg Prod.snd hwrite
      rw [← hnext] at h
      obtain ⟨hend, htargets⟩ := ih (hplain.mono hwritten (List.subset_cons_self ..)) h
      refine ⟨hend, fun y hy => ?_⟩
      rcases List.mem_cons.mp hy with rfl | hy
      · exact exists_target_of_write (congrArg Prod.fst hwrite)
      · obtain ⟨hid', hother⟩ :=
          hplain y.identifier (List.mem_cons_of_mem _ (List.mem_map_of_mem hy))
        rw [← hwritten.target?_eq y.identifier hid' hother]
        exact htargets y hy

/-! ### Directories without files of lists -/

variable (c) in
/-- Whether nothing in the directory of a cache has the name of a file of a list. A missing directory
whose path takes a step to the directory above is the one that the path leads to once those on its
way have been made. -/
inductive StartsClear (d : Disk) : Prop
  | listed {names : List Bytes} (hnames : d.listDirectory (.text c.directory) = .ok names)
      (hclear : ∀ identifier, .text (identifier ++ extension) ∉ names)
  | missing (htree : d.IsTree) (hparent : Path.parent ∉ (Bytes.text c.directory).splitAtSlashes)
      (hmissing : d.listDirectory (.text c.directory) = .error .notFound)
  | missingOnTheWay (hmissing : d.listDirectory (.text c.directory) = .error .notFound)
      (hclear : ∀ left place identifier, c.StandsAt (c.made d) left place →
        d.get? (place ++ [.text (identifier ++ extension)]) = none)

variable (c) in
/-- Whether the directory of a cache can be listed or is missing, and nothing stands in it under the
name of a file of a list once it has been made. -/
structure MadeClear (d : Disk) : Prop where
  lists : d.listDirectory (.text c.directory) = .error .notFound ∨
    ∃ names, d.listDirectory (.text c.directory) = .ok names
  clear : ∀ left place identifier, c.StandsAt (c.made d) left place →
    d.get? (place ++ [.text (identifier ++ extension)]) = none

/-- A directory that can be listed is not made anew. -/
theorem madeClear_of_listDirectory (hdirectory : c.directory ≠ "") {names : List Bytes}
    (hnames : d.listDirectory (.text c.directory) = .ok names)
    (hclear : ∀ identifier, .text (identifier ++ extension) ∉ names) : c.MadeClear d := by
  refine ⟨.inr ⟨names, hnames⟩, fun left place identifier hmade => ?_⟩
  obtain ⟨_, left', place', hstands, rfl⟩ := (listDirectory_eq_ok_iff hdirectory).mp hnames
  have hadds : d.Adds (c.made d) := adds_made
  obtain rfl := (hstands.keep hadds.extends.keepsWays).unique hmade
  rw [Option.eq_none_iff_forall_ne_some]
  exact fun item hitem => hclear identifier (Disk.mem_names_iff.mpr ⟨item, hitem⟩)

/-- Where a missing directory is made whose path takes no step to the directory above, there was
nothing to hold a file. -/
theorem madeClear_of_missing (hdirectory : c.directory ≠ "") (htree : d.IsTree)
    (hparent : Path.parent ∉ (Bytes.text c.directory).splitAtSlashes)
    (hmissing : d.listDirectory (.text c.directory) = .error .notFound) : c.MadeClear d := by
  refine ⟨.inl hmissing, fun left place identifier hmade => ?_⟩
  have hstart : (c.made d).start = d.start := adds_made.within.1
  have hleads := hmade.leads
  rw [hstart] at hleads
  rcases Disk.eq_or_get?_eq_none_of_makeDirectories htree hparent rfl hleads hmade.directory with
    hsame | hnew
  · -- nothing has been made, so the directory could have been listed
    have hstands : c.StandsAt d left place := by
      rw [show c.made d = d from hsame] at hmade
      exact hmade
    cases hparse : Path.parse (.text c.directory) with
    | ok p =>
      rw [(listDirectory_eq_ok_iff hdirectory).mpr ⟨⟨p, hparse⟩, left, place, hstands, rfl⟩]
        at hmissing
      cases hmissing
    | error cause =>
      have hcause : d.listDirectory (.text c.directory) = .error cause := by
        unfold Disk.listDirectory Disk.item Disk.find
        rw [hparse]
        rfl
      rw [hmissing] at hcause
      exact absurd (Except.error.inj hcause).symm (Path.parse_ne_notFound hparse)
  · rw [Option.eq_none_iff_forall_ne_some]
    intro item hitem
    rw [htree.directory _ _ _ hitem] at hnew
    cases hnew

theorem StartsClear.madeClear (hdirectory : c.directory ≠ "") (h : c.StartsClear d) :
    c.MadeClear d := by
  cases h with
  | listed hnames hclear => exact madeClear_of_listDirectory hdirectory hnames hclear
  | missing htree hparent hmissing =>
    exact madeClear_of_missing hdirectory htree hparent hmissing
  | missingOnTheWay hmissing hclear => exact ⟨.inl hmissing, hclear⟩

/-- Where the file of a list belongs, nothing stands at first. -/
theorem MadeClear.free (h : c.MadeClear d) (hbelongs : c.BelongsAt (c.made d) identifier place) :
    d.get? place = none := by
  obtain ⟨left, directory, hstands, rfl⟩ := hbelongs.inDirectory
  exact h.clear left directory identifier hstands

theorem MadeClear.isPlain (h : c.MadeClear d) (hid : '/' ∉ identifier.toList) :
    c.IsPlain d identifier := by
  rw [isPlain_iff hid]
  intro place hbelongs target hlink
  have hfree := h.free hbelongs
  obtain ⟨left, directory, hstands, rfl⟩ := hbelongs.inDirectory
  rcases get?_made_cases hlink with hthere | ⟨hdirectory, _⟩
  · rw [hfree] at hthere
    cases hthere
  · cases hdirectory

section Run

variable (hclear : c.MadeClear d) (hids : ∀ x ∈ lists, '/' ∉ x.identifier.toList)
  (hrun : c.writeAll d lists = .ok e)

include hclear hids

theorem MadeClear.arePlain : c.ArePlain d (lists.map (·.identifier)) := by
  intro identifier hmem
  obtain ⟨x, hx, rfl⟩ := List.mem_map.mp hmem
  exact ⟨hids x hx, hclear.isPlain (hids x hx)⟩

include hrun

/-- What was there before is left. -/
theorem MadeClear.keeps : d.Keeps e := by
  have hplain := hclear.arePlain hids
  obtain ⟨rfl, htargets⟩ := writeAll_eq_ok hplain hrun
  refine ⟨start_writeEach d lists, fun place item hitem => ?_⟩
  by_cases hempty : lists = []
  · rwa [hempty]
  · have hnone : ∀ x ∈ lists, c.target? d x.identifier ≠ some place := by
      intro x hx htarget
      have hx' := hplain x.identifier (List.mem_map_of_mem hx)
      rw [hclear.free ((target?_eq_some_iff hx'.1 hx'.2).mp htarget).2.1] at hitem
      cases hitem
    have hadds : d.Adds (c.made d) := adds_made
    have hkept := get?_writeEach_of_forall_ne hplain hnone
    rw [(written_writeEach hplain hempty).made_eq, hadds.kept place item hitem] at hkept
    exact hkept

/-- What has been written last under an identifier can be read. -/
theorem MadeClear.readFile_of_latest {x : Write} (hlatest : latest? lists identifier = some x) :
    e.readFile (.text (c.path identifier)) = .ok (.text x.encoded, x.time) := by
  have hplain := hclear.arePlain hids
  obtain ⟨rfl, htargets⟩ := writeAll_eq_ok hplain hrun
  obtain ⟨hx, rfl⟩ := mem_of_latest? hlatest
  obtain ⟨hid, hplain'⟩ := hplain x.identifier (List.mem_map_of_mem hx)
  obtain ⟨place, htarget⟩ := htargets x hx
  have hwritten := written_writeEach hplain (List.ne_nil_of_mem hx)
  have hbelongs := ((target?_eq_some_iff hid hplain').mp htarget).2.1.extend hwritten.extends_made
  exact (readFile_eq_ok_iff hid ((hwritten.isPlain _ hid hplain').ne_link hid)).mpr
    ⟨place, hbelongs, get?_writeEach_of_latest hplain hlatest htarget⟩

/-- The directory stands where it is made first. -/
theorem MadeClear.standsAt_made {left : Nat} (hstands : c.StandsAt e left place) :
    ∃ left, c.StandsAt (c.made d) left place := by
  have hplain := hclear.arePlain hids
  obtain ⟨rfl, htargets⟩ := writeAll_eq_ok hplain hrun
  by_cases hempty : lists = []
  · have hadds : d.Adds (c.made d) := adds_made
    rw [hempty] at hstands
    exact ⟨left, hstands.keep hadds.extends.keepsWays⟩
  · obtain ⟨x, hx⟩ := List.exists_mem_of_ne_nil lists hempty
    obtain ⟨target, htarget⟩ := htargets x hx
    have hx' := hplain x.identifier (List.mem_map_of_mem hx)
    obtain ⟨first, directory, hmade, _⟩ :=
      ((target?_eq_some_iff hx'.1 hx'.2).mp htarget).2.1.inDirectory
    have hextends := (written_writeEach hplain hempty).extends_made
    obtain rfl := (hmade.keep hextends.keepsWays).unique hstands
    exact ⟨first, hmade⟩

/-- Under the name of a list that has not been written there can only be a directory. -/
theorem MadeClear.get?_of_not_written {left : Nat} (hstands : c.StandsAt e left place)
    (hnone : latest? lists identifier = none) {item : Item}
    (hitem : e.get? (place ++ [.text (identifier ++ extension)]) = some item) :
    item = .directory ∧ '/' ∉ identifier.toList := by
  obtain ⟨_, hmade⟩ := hclear.standsAt_made hids hrun hstands
  have hfree := hclear.clear _ place identifier hmade
  have hplain := hclear.arePlain hids
  obtain ⟨rfl, htargets⟩ := writeAll_eq_ok hplain hrun
  have hempty : lists ≠ [] := by
    rintro rfl
    rw [show c.writeEach d [] = d from rfl, hfree] at hitem
    cases hitem
  have hother : ∀ x ∈ lists,
      c.target? d x.identifier ≠ some (place ++ [.text (identifier ++ extension)]) := by
    intro x hx htarget
    have hx' := hplain x.identifier (List.mem_map_of_mem hx)
    obtain ⟨_, _, _, hplace⟩ := ((target?_eq_some_iff hx'.1 hx'.2).mp htarget).2.1.inDirectory
    have hname : identifier ++ extension = x.identifier ++ extension := by
      simpa using (List.append_inj' hplace rfl).2
    exact latest?_eq_none_iff.mp hnone x hx (by simpa using hname.symm)
  -- no list has been written there, so it was made on the way to the directory
  have hleft := get?_writeEach_of_forall_ne hplain hother
  rw [(written_writeEach hplain hempty).made_eq, hitem] at hleft
  rcases get?_made_cases hleft.symm with hthere | ⟨hdirectory, hslash⟩
  · rw [hfree] at hthere
    cases hthere
  · refine ⟨hdirectory, fun hmem => ?_⟩
    rw [Bytes.holdsSlash, toList_fileName, List.contains_iff_mem.mpr (List.mem_append_left _ hmem)]
      at hslash
    cases hslash

end Run

/-! ### What is listed -/

variable {files : List CacheFile} {f : CacheFile}

/-- Files whose names occur once in the directory are listed once, in the order of their
identifiers. -/
theorem pairwise_identifiers (hdirectory : c.directory ≠ "") (h : d.Distinct keep)
    (hkeep : ∀ left place identifier, c.StandsAt d left place →
      keep (place ++ [.text (identifier ++ extension)]) = true)
    (hfiles : c.files d = .ok files) : (files.map (·.identifier)).Pairwise (· < ·) := by
  unfold Cache.files at hfiles
  split at hfiles
  · rename_i names hnames
    obtain rfl := Except.ok.inj hfiles
    obtain ⟨_, left, place, hstands, rfl⟩ := (listDirectory_eq_ok_iff hdirectory).mp hnames
    refine Text.pairwise_mergeSort _ ?_
    rw [List.map_filterMap]
    have hkept : (d.names place).filterMap (fun name => (c.fileOfName? d name).map (·.identifier)) =
        ((d.names place).filter fun name => keep (place ++ [name])).filterMap
          fun name => (c.fileOfName? d name).map (·.identifier) := by
      rw [List.filterMap_filter]
      refine List.filterMap_congr fun name _ => ?_
      cases hname : c.fileOfName? d name with
      | none => simp
      | some f =>
        obtain ⟨rfl, _⟩ := fileOfName?_eq_some_iff.mp hname
        rw [if_pos (hkeep left place f.identifier hstands)]
    rw [hkept]
    refine (h.names place).filterMap fun name other identifier hname hother => ?_
    obtain ⟨f, hf, rfl⟩ := Option.map_eq_some_iff.mp hname
    obtain ⟨g, hg, hsame⟩ := Option.map_eq_some_iff.mp hother
    rw [(fileOfName?_eq_some_iff.mp hf).1, (fileOfName?_eq_some_iff.mp hg).1, hsame]
  · obtain rfl := Except.ok.inj hfiles
    exact .nil
  · cases hfiles

section Run

variable (hdirectory : c.directory ≠ "") (hclear : c.MadeClear d)
  (hids : ∀ x ∈ lists, '/' ∉ x.identifier.toList) (hrun : c.writeAll d lists = .ok e)

include hdirectory hclear hids hrun

theorem MadeClear.exists_files : ∃ files, c.files e = .ok files := by
  by_cases hempty : lists = []
  · subst hempty
    obtain rfl := Except.ok.inj hrun
    unfold Cache.files
    rcases hclear.lists with hmissing | ⟨names, hnames⟩
    · rw [hmissing]
      exact ⟨_, rfl⟩
    · rw [hnames]
      exact ⟨_, rfl⟩
  · have hplain := hclear.arePlain hids
    obtain ⟨rfl, htargets⟩ := writeAll_eq_ok hplain hrun
    obtain ⟨x, hx⟩ := List.exists_mem_of_ne_nil lists hempty
    obtain ⟨place, htarget⟩ := htargets x hx
    have hx' := hplain x.identifier (List.mem_map_of_mem hx)
    have hbelongs := ((target?_eq_some_iff hx'.1 hx'.2).mp htarget).2.1.extend
      (written_writeEach hplain hempty).extends_made
    obtain ⟨p, hparse⟩ := hbelongs.parses
    obtain ⟨left, directory, hstands, _⟩ := hbelongs.inDirectory
    unfold Cache.files
    rw [(listDirectory_eq_ok_iff hdirectory).mpr
      ⟨Path.parse_of_join (slash_not_mem_fileName hx'.1) hparse, left, directory, hstands, rfl⟩]
    exact ⟨_, rfl⟩

/-- A file that is listed has been written. -/
theorem MadeClear.exists_latest (hfiles : c.files e = .ok files) (hf : f ∈ files) :
    ∃ x, latest? lists f.identifier = some x := by
  obtain ⟨names, hnames⟩ := exists_names_of_mem_files hfiles hf
  obtain ⟨hname, _, hfile⟩ := (mem_files_iff_of_names hnames hfiles).mp hf
  obtain ⟨_, left, place, hstands, rfl⟩ := (listDirectory_eq_ok_iff hdirectory).mp hnames
  obtain ⟨item, hitem⟩ := Disk.mem_names_iff.mp hname
  cases hlatest : latest? lists f.identifier with
  | some x => exact ⟨x, rfl⟩
  | none =>
    -- what has that name is a directory then, and directories are not listed
    obtain ⟨rfl, hslash⟩ := hclear.get?_of_not_written hids hrun hstands hlatest hitem
    have hfinds : c.Finds e f := ⟨hslash, hfile⟩
    obtain ⟨_, hbelongs⟩ := hfinds.exists_belongsAt
    obtain ⟨_, directory, hstands', rfl⟩ := hbelongs.inDirectory
    obtain rfl := hstands.unique hstands'
    exact absurd hitem (hfinds.ne_directory hbelongs)

end Run

/-- After lists have been written to a directory that holds no files of lists, just the files of these
lists are listed, each once and in the order of their identifiers. Each holds the text that was
written last under its identifier. What was on the disk before is as it was. -/
theorem files_writeAll [UrlChecker] (hdirectory : c.directory ≠ "") (hstart : c.StartsClear d)
    (hmade : ∀ x ∈ lists, ∃ location s, Source.make x.identifier location = .ok s)
    (hrun : c.writeAll d lists = .ok e) :
    ∃ files, c.files e = .ok files ∧ (files.map (·.identifier)).Pairwise (· < ·) ∧
      (∀ identifier, identifier ∈ files.map (·.identifier) ↔
        identifier ∈ lists.map (·.identifier)) ∧
      (∀ f ∈ files, f.path = c.path f.identifier ∧
        ∃ x, latest? lists f.identifier = some x ∧ Cache.read e f = .ok x.encoded) ∧
      d.Keeps e := by
  have hclear := hstart.madeClear hdirectory
  have hvalid : ∀ x ∈ lists, '/' ∉ x.identifier.toList ∧ x.identifier ≠ "" := by
    intro x hx
    obtain ⟨location, s, hs⟩ := hmade x hx
    have hkey := Source.isValid_key_of_make hs
    obtain rfl := Source.eq_of_make hs
    exact ⟨slash_not_mem_of_isValid hkey, Source.identifier_ne_of_isValid hkey⟩
  have hids : ∀ x ∈ lists, '/' ∉ x.identifier.toList := fun x hx => (hvalid x hx).1
  obtain ⟨files, hfiles⟩ := hclear.exists_files hdirectory hids hrun
  have hdistinct : e.Distinct fun place => (d.get? place).isNone := by
    rw [(writeAll_eq_ok (hclear.arePlain hids) hrun).1]
    exact distinct_writeEach d.distinct_free lists
  have hnew : ∀ left place identifier, c.StandsAt e left place →
      (d.get? (place ++ [.text (identifier ++ extension)])).isNone = true := by
    intro left place identifier hstands
    obtain ⟨first, hmade⟩ := hclear.standsAt_made hids hrun hstands
    rw [hclear.clear first place identifier hmade]
    rfl
  refine ⟨files, hfiles, pairwise_identifiers hdirectory hdistinct hnew hfiles, fun identifier =>
    ⟨?_, ?_⟩, fun f hf => ?_, hclear.keeps hids hrun⟩
  · intro hmem
    obtain ⟨f, hf, rfl⟩ := List.mem_map.mp hmem
    obtain ⟨x, hlatest⟩ := hclear.exists_latest hdirectory hids hrun hfiles hf
    obtain ⟨hx, hsame⟩ := mem_of_latest? hlatest
    exact hsame ▸ List.mem_map_of_mem hx
  · intro hmem
    obtain ⟨y, hy, rfl⟩ := List.mem_map.mp hmem
    cases hlatest : latest? lists y.identifier with
    | none => exact absurd rfl (latest?_eq_none_iff.mp hlatest y hy)
    | some x =>
      have hread := hclear.readFile_of_latest hids hrun hlatest
      have hfile : c.file e y.identifier = .ok ⟨y.identifier, c.path y.identifier, x.time⟩ :=
        file_eq_ok_iff.mpr ⟨rfl, rfl, Disk.modified_of_readFile hread⟩
      have hlisted := (mem_files_iff hdirectory hfiles (hids y hy) (hvalid y hy).2).mpr hfile
      exact List.mem_map_of_mem (f := (·.identifier)) hlisted.1
  · obtain ⟨x, hlatest⟩ := hclear.exists_latest hdirectory hids hrun hfiles hf
    obtain ⟨_, hpath, _⟩ := file_eq_ok_iff.mp (file_of_mem_files hfiles hf)
    refine ⟨hpath, x, hlatest, ?_⟩
    unfold Cache.read Disk.readText
    rw [hpath, hclear.readFile_of_latest hids hrun hlatest]
    rfl

/-- A cache that is missing, because its path leads through a directory that is. -/
def throughMissing : Cache where
  directory := "x/../lists"
  retention := 3600 * second

def oldDisk : Disk where
  items := [
    ([.text "lists"], .directory),
    ([.text "lists", .text "old.json"], .file (.bytes (.text "[]")) 0)]

/-- When the directory on the way has been made, the file of a list shows up that nobody has
written. -/
theorem old_list_is_listed :
    throughMissing.directory ≠ "" ∧ oldDisk.IsTree ∧
      oldDisk.listDirectory (.text throughMissing.directory) = .error .notFound ∧
      (∃ s, Source.make "a" "https://a.test/" = .ok s) ∧
      ∃ e, throughMissing.writeAll oldDisk [⟨1, "a", "1"⟩] = .ok e ∧
        ∃ files, throughMissing.files e = .ok files ∧
          files.map (·.identifier) = ["a", "old"] := by
  have htree : oldDisk.IsTree := Disk.isTree_of_forall_items (by decide +kernel)
  refine ⟨by decide, htree, by decide +kernel,
    ⟨{ identifier := "a", location := "https://a.test/" }, by decide +kernel⟩,
    (throughMissing.write oldDisk 1 "a" "1").2, by decide +kernel,
    [⟨"a", "x/../lists/a.json", 1⟩, ⟨"old", "x/../lists/old.json", 0⟩], ?_, rfl⟩
  have hnames : (throughMissing.write oldDisk 1 "a" "1").2.listDirectory
      (.text throughMissing.directory) = .ok [.text "a.json", .text "old.json"] := by
    decide +kernel
  unfold Cache.files
  rw [hnames]
  refine congrArg Except.ok (Eq.trans (List.mergeSort_of_pairwise ?_) ?_) <;> decide +kernel

/-- A cache whose directory may hold other files. -/
def untidy : Cache where
  directory := "lists/../lists"
  retention := 3600 * second

def untidyDisk : Disk where
  items := [
    ([.text "lists"], .directory),
    ([.text "lists", .text "a.json.old"], .file (.bytes (.text "[]")) 0)]

/-- A cache two directories below the one where paths start. -/
def nested : Cache where
  directory := "cache/lists"
  retention := 3600 * second

/-- Lists whose identifiers could be mistaken for each other or for names of files. One is written
again. -/
def oddLists : List Write :=
  [⟨1, "a", "1"⟩, ⟨2, "a.json", "2"⟩, ⟨3, "..", "3"⟩, ⟨4, " a b", "4"⟩, ⟨5, "a", "5"⟩]

theorem startsClear_untidyDisk : untidy.StartsClear untidyDisk := by
  have hnames : untidyDisk.listDirectory (.text untidy.directory) =
      .ok [.text "a.json.old"] := by
    decide +kernel
  refine .listed hnames fun identifier hmem => ?_
  rw [List.mem_singleton, Bytes.text.injEq, ← String.toList_inj, toList_fileName] at hmem
  -- one of the names ends in another letter
  have hlast := congrArg List.getLast? hmem
  rw [List.getLast?_append] at hlast
  have hletters : some 'n' = "a.json.old".toList.getLast? := hlast
  revert hletters
  decide +kernel

theorem startsClear_nested : nested.StartsClear {} :=
  .missing (Disk.isTree_of_forall_items (by decide)) (by decide +kernel) (by decide +kernel)

/-- The lists are told apart beside other files and in a directory that is made for them. -/
theorem files_writeAll_of_odd_names :
    untidy.StartsClear untidyDisk ∧ nested.StartsClear {} ∧
      (∀ x ∈ oddLists, ∃ location s, Source.make x.identifier location = .ok s) ∧
      ∀ start ∈ [(untidy, untidyDisk), (nested, {})], start.1.directory ≠ "" ∧
        ∃ e, start.1.writeAll start.2 oddLists = .ok e ∧
          ∃ files, start.1.files e = .ok files ∧ (files.map (·.identifier)).Pairwise (· < ·) ∧
            (∀ identifier, identifier ∈ files.map (·.identifier) ↔
              identifier ∈ [" a b", "..", "a", "a.json"]) ∧
            ∀ f ∈ files, f.identifier = "a" →
              f.path = start.1.directory ++ "/a.json" ∧ Cache.read e f = .ok "5" := by
  have hurl : ∀ x ∈ oddLists, Source.make x.identifier "https://a.test/" =
      .ok { identifier := x.identifier, location := "https://a.test/" } := by
    decide +kernel
  have hmade : ∀ x ∈ oddLists, ∃ location s, Source.make x.identifier location = .ok s :=
    fun x hx => ⟨_, _, hurl x hx⟩
  have hok : ∀ start ∈ [(untidy, untidyDisk), (nested, {})],
      (start.1.writeAll start.2 oddLists).isOk = true := by
    decide +kernel
  have hpath : ∀ start ∈ [(untidy, untidyDisk), (nested, ({} : Disk))],
      start.1.directory ≠ "" ∧ start.1.path "a" = start.1.directory ++ "/a.json" := by
    decide +kernel
  refine ⟨startsClear_untidyDisk, startsClear_nested, hmade, fun start hmem => ?_⟩
  have hstart : start.1.StartsClear start.2 := by
    rcases List.mem_pair.mp hmem with rfl | rfl
    · exact startsClear_untidyDisk
    · exact startsClear_nested
  obtain ⟨hdirectory, hfile⟩ := hpath start hmem
  have hok := hok start hmem
  cases hrun : start.1.writeAll start.2 oddLists with
  | error cause =>
    rw [hrun] at hok
    cases hok
  | ok e =>
    obtain ⟨files, hfiles, hsorted, hlisted, hread, _⟩ :=
      files_writeAll hdirectory hstart hmade hrun
    refine ⟨hdirectory, e, rfl, files, hfiles, hsorted, fun identifier => ?_, fun f hf hsame => ?_⟩
    · rw [hlisted]
      simp only [oddLists, List.map_cons, List.map_nil, List.mem_cons, List.not_mem_nil]
      grind
    · obtain ⟨hplace, x, hlatest, htext⟩ := hread f hf
      rw [hsame] at hplace hlatest
      obtain rfl := Option.some.inj hlatest
      exact ⟨hplace.trans hfile, htext⟩

end Cache

end ContentBlocker
