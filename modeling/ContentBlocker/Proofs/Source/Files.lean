import ContentBlocker.Proofs.Disk.CachePlaces
import ContentBlocker.Proofs.Source.Keys

/-!
# Files of sources

Sources that have been made and checked are kept apart (`Source.checkAll_keeps_apart`): they have
valid keys and files of their own, and the identifier of a source can be read off the name of its
file (`Cache.identifierOfPath?`).

The file of a source never leaves the directory of the cache, whatever the identifier looks like: as
it holds no slash, the path has just one name more than the path of the directory (`Path.IsIn`), and
as that name ends in `.json`, it is no step to another directory. So on every disk the path leads
into the directory if it leads anywhere (`Cache.belongsAt_of_find`).
-/

namespace ContentBlocker

/-! ### Names at the end of paths -/

namespace Path

/-- The name of the file that a path leads to: the last of its names. Steps from a directory to
itself do not count, and behind a step to the directory above there is no name. -/
def fileName? (path : String) : Option Bytes :=
  match ((Bytes.text path).splitAtSlashes.filter (· ≠ self)).getLast? with
  | some name => if name = parent then none else some name
  | none => none

/-- Whether a path leads to a name right in a directory: it starts where the path of the directory
starts, and has that name behind the names of the directory. -/
structure IsIn (directory name path : String) : Prop where
  startsWithSlash : (Bytes.text path).startsWithSlash = (Bytes.text directory).startsWithSlash
  names : (Bytes.text path).splitAtSlashes =
    (Bytes.text directory).splitAtSlashes ++ [.text name]
  endsWithSlash : (Bytes.text path).endsWithSlash = false

variable {directory name : String}

theorem isIn_join (hname : '/' ∉ name.toList) (hne : name.toList ≠ []) :
    IsIn directory name (join directory name) :=
  ⟨startsWithSlash_join hname, splitAtSlashes_join hname hne, endsWithSlash_join hname hne⟩

theorem IsIn.fileName?_eq {path : String} (h : IsIn directory name path)
    (hself : Bytes.text name ≠ self) (hparent : Bytes.text name ≠ parent) :
    fileName? path = some (.text name) := by
  unfold fileName?
  rw [h.names, List.filter_append, List.filter_singleton, decide_eq_true hself]
  simp [hparent]

theorem IsIn.name_eq {name' path : String} (h : IsIn directory name path)
    (h' : IsIn directory name' path) : name = name' := by
  have hnames := h.names.symm.trans h'.names
  have hlast := List.append_cancel_left hnames
  simpa using hlast

end Path

namespace Cache

variable (c : Cache) {identifier : String}

/-- The identifier that the name of the file comes from that a path leads to. -/
def identifierOfPath? (path : String) : Option String :=
  (Path.fileName? path).bind identifierOf?

variable (hid : '/' ∉ identifier.toList)

include hid

/-- The file of a list is right in the directory, under the list's own name. -/
theorem isIn_path : Path.IsIn c.directory (identifier ++ extension) (c.path identifier) :=
  Path.isIn_join (slash_not_mem_fileName hid) (toList_fileName_ne_nil identifier)

theorem identifierOfPath?_path (hne : identifier ≠ "") :
    identifierOfPath? (c.path identifier) = some identifier := by
  have hname := (c.isIn_path hid).fileName?_eq (fileName_ne identifier (by decide))
    (fileName_ne identifier (by decide))
  unfold identifierOfPath?
  rw [hname]
  exact identifierOf?_eq_some_iff.mpr ⟨rfl, hne⟩

theorem identifier_eq_of_path_eq {other : String} (hother : '/' ∉ other.toList)
    (h : c.path identifier = c.path other) : identifier = other := by
  have hin := c.isIn_path hother
  rw [← h] at hin
  simpa using (c.isIn_path hid).name_eq hin

/-- Where the path of a file leads on a disk is where the file belongs: in the directory of the
cache. -/
theorem belongsAt_of_find {d : Disk} {place : Place}
    (h : d.find false (.text (c.path identifier)) = .ok (.item place) ∨
      d.find false (.text (c.path identifier)) = .ok (.free place)) :
    c.BelongsAt d identifier place := by
  have hexists : ∃ stands, c.BelongsAt d identifier stands := by
    rcases h with h | h <;> exact exists_belongsAt_of_find hid h
  obtain ⟨stands, hbelongs⟩ := hexists
  suffices hplace : stands = place by rwa [← hplace]
  by_cases hlink : ∃ target, d.get? stands = some (.link target)
  · obtain ⟨target, hlink⟩ := hlink
    rw [hbelongs.find_eq_of_link hid hlink] at h
    simpa using h
  · rw [hbelongs.find_eq hid (fun target htarget => hlink ⟨target, htarget⟩)] at h
    split at h <;> simpa using h

end Cache

namespace Source

/-! ### Sources that are kept apart -/

/-- Whether identifiers differ from each other even without their white space. -/
def AreDistinct (sources : List Source) : Prop :=
  sources.Pairwise fun s s' =>
    Text.dropSpaces s.identifier.toList ≠ Text.dropSpaces s'.identifier.toList

theorem key_eq_key_iff {s s' : Source} :
    s.key = s'.key ↔
      Text.dropSpaces s.identifier.toList = Text.dropSpaces s'.identifier.toList :=
  Key.ofIdentifier_eq_iff

theorem nodup_keys_iff {sources : List Source} :
    (sources.map key).Nodup ↔ AreDistinct sources := by
  unfold AreDistinct List.Nodup
  rw [List.pairwise_map]
  exact List.Pairwise.iff fun s s' => not_congr key_eq_key_iff

theorem identifier_ne_of_isValid {s : Source} (h : Key.isValid s.key = true) :
    s.identifier ≠ "" := by
  intro hempty
  unfold key at h
  rw [hempty] at h
  revert h
  decide

/-- Sources that have been made pass the check exactly when their identifiers differ without white
space; otherwise the first one is named that does not differ from one before it. Those that pass
have valid keys, which differ, and files right in the directory of any cache, which differ as well
and have names that the identifiers can be read off. -/
theorem checkAll_keeps_apart [UrlChecker] {sources : List Source}
    (hmade : ∀ s ∈ sources, make s.identifier s.location = .ok s) :
    (checkAll sources = .ok () ↔ AreDistinct sources) ∧
    (¬AreDistinct sources → ∃ earlier s later, sources = earlier ++ s :: later ∧
      AreDistinct earlier ∧
      (∃ other ∈ earlier,
        Text.dropSpaces other.identifier.toList = Text.dropSpaces s.identifier.toList) ∧
      checkAll sources = .error (.invalidInput (.duplicateIdentifier s.identifier))) ∧
    (checkAll sources = .ok () →
      (∀ s ∈ sources, Key.isValid s.key = true) ∧
      sources.Pairwise (fun s s' => s.key ≠ s'.key) ∧
      ∀ c : Cache,
        sources.Pairwise (fun s s' => c.path s.identifier ≠ c.path s'.identifier) ∧
        ∀ s ∈ sources,
          Path.IsIn c.directory (s.identifier ++ ".json") (c.path s.identifier) ∧
          (∀ (d : Disk) (place : Place),
            d.find false (.text (c.path s.identifier)) = .ok (.item place) ∨
              d.find false (.text (c.path s.identifier)) = .ok (.free place) →
            c.BelongsAt d s.identifier place) ∧
          Cache.identifierOfPath? (c.path s.identifier) = some s.identifier) := by
  refine ⟨checkAll_eq_ok_iff.trans nodup_keys_iff, fun hrepeated => ?_, fun hchecked => ?_⟩
  · rw [← nodup_keys_iff] at hrepeated
    obtain ⟨earlier, s, later, hsources, hnodup, hmem, herror⟩ := exists_of_not_nodup_keys hrepeated
    obtain ⟨other, hother, hkey⟩ := List.mem_map.mp hmem
    exact ⟨earlier, s, later, hsources, nodup_keys_iff.mp hnodup,
      ⟨other, hother, key_eq_key_iff.mp hkey⟩, herror⟩
  · have hvalid : ∀ s ∈ sources, Key.isValid s.key = true :=
      fun s hs => isValid_key_of_make (hmade s hs)
    have hid : ∀ s ∈ sources, '/' ∉ s.identifier.toList :=
      fun s hs => slash_not_mem_of_isValid (hvalid s hs)
    have hkeys : sources.Pairwise fun s s' => s.key ≠ s'.key :=
      List.pairwise_map.mp (nodup_keys_of_checkAll hchecked)
    refine ⟨hvalid, hkeys, fun c => ⟨?_, fun s hs => ⟨?_, fun d place => ?_, ?_⟩⟩⟩
    · refine hkeys.imp_of_mem fun hs hs' hkey hpath => hkey ?_
      rw [key, key, c.identifier_eq_of_path_eq (hid _ hs) (hid _ hs') hpath]
    · exact c.isIn_path (hid s hs)
    · exact c.belongsAt_of_find (hid s hs)
    · exact c.identifierOfPath?_path (hid s hs) (identifier_ne_of_isValid (hvalid s hs))

/-- Sources with identifiers that could be mistaken for steps, names of files or each other. -/
def oddlyNamed : List Source :=
  ["Fanboy Social", "..", "a.json", "a", " a\u00a0b "].map fun identifier =>
    { identifier, location := "https://a.test/" }

/-- Such sources pass the check, and the identifiers of all of them can be read off their files. -/
theorem checkAll_keeps_oddly_named_apart :
    (∀ s ∈ oddlyNamed, make s.identifier s.location = .ok s) ∧ checkAll oddlyNamed = .ok () ∧
      oddlyNamed.Pairwise (fun s s' => s.key ≠ s'.key) ∧
      ∀ s ∈ oddlyNamed,
        Path.IsIn "lists" (s.identifier ++ ".json")
          (Cache.path ⟨"lists", 3600 * second⟩ s.identifier) ∧
        Cache.identifierOfPath? (Cache.path ⟨"lists", 3600 * second⟩ s.identifier) =
          some s.identifier := by
  have hmade : ∀ s ∈ oddlyNamed, make s.identifier s.location = .ok s := by decide +kernel
  have hchecked : checkAll oddlyNamed = .ok () := by decide +kernel
  obtain ⟨_, hkeys, hfiles⟩ := (checkAll_keeps_apart hmade).2.2 hchecked
  refine ⟨hmade, hchecked, hkeys, fun s hs => ?_⟩
  obtain ⟨hin, _, hidentifier⟩ := (hfiles ⟨"lists", 3600 * second⟩).2 s hs
  exact ⟨hin, hidentifier⟩

end Source

end ContentBlocker
