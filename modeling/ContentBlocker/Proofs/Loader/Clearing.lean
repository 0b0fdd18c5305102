import ContentBlocker.Proofs.Disk.Removing
import ContentBlocker.Proofs.Loader.Coherence
import ContentBlocker.Proofs.Source.Files

/-!
# Clearing a loader

Clearing removes the files that are listed in the cache and takes the lists of the sources out of the
registry, and leaves everything else (`Loader.clear_clears`). A source without a file is not served
from the cache, so the next load requests every source.
-/

namespace ContentBlocker.Loader

variable {l : Loader Registry} {w w' : World Registry} {count : Nat}

/-- Where clearing succeeds, it has cleared the cache and then the registry. -/
theorem clear_eq_ok (h : l.clear w = (.ok count, w')) :
    ∃ d, l.cache.clear w.disk = (.ok count, d) ∧ (World.forEach
      (fun s w => w.onRegistry (l.builder.remove s.identifier)) l.sources { w with disk := d }).2 =
        w' := by
  unfold clear World.onDisk at h
  rcases hclear : l.cache.clear w.disk with ⟨cause | removed, d⟩
  · rw [hclear] at h
    cases h
  · rw [hclear] at h
    obtain ⟨hcount, hworld⟩ := Prod.mk.inj h
    rw [Except.ok.inj hcount]
    exact ⟨d, rfl, hworld⟩

/-- While no file is listed, a load requests every source. -/
theorem requests_load_of_no_files [UrlChecker] (hdirectory : l.cache.directory ≠ "")
    (hmade : ∀ s ∈ l.sources, Source.make s.identifier s.location = .ok s)
    (hsources : l.sources ≠ []) (hfiles : l.cache.files w.disk = .ok []) (network : Network)
    (now : Int) :
    (l.load network now false w).2.requests =
      (l.sources.map (·.location)).reverse ++ w.requests := by
  have hnone : l.cache.check w.disk now (l.sources.map (·.identifier)) = none := by
    rw [Option.eq_none_iff_forall_ne_some]
    intro files hcheck
    obtain ⟨s, hs⟩ := List.exists_mem_of_ne_nil l.sources hsources
    have hvalid := Source.isValid_key_of_make (hmade s hs)
    obtain ⟨f, hfresh⟩ := Cache.exists_check_iff.mp ⟨files, hcheck⟩ _
      (List.mem_map_of_mem (f := (·.identifier)) hs)
    have hlisted := (Cache.mem_files_iff hdirectory hfiles (slash_not_mem_of_isValid hvalid)
      (Source.identifier_ne_of_isValid hvalid)).mpr (Cache.freshFile?_eq_some_iff.mp hfresh).1
    exact absurd hlisted.1 List.not_mem_nil
  unfold load loadBy
  rw [if_neg Bool.false_ne_true, hnone]
  exact l.refreshSources_requests network now w

/-- Clearing that succeeds tells how many files were listed, and then none is. It takes the lists of
the sources out of the registry, so that the next load requests each source once. What stood on the
disk and was not listed is left, be it in the directory or not, and so are the lists of others. -/
theorem clear_clears [FilterReader] [UrlChecker] (hmemory : l.builder.registry = some .memory)
    (hmade : ∀ s ∈ l.sources, Source.make s.identifier s.location = .ok s)
    (hdirectory : l.cache.directory ≠ "") (htree : w.disk.IsTree)
    (hclear : l.clear w = (.ok count, w')) :
    (∃ files, l.cache.files w.disk = .ok files ∧ count = files.length ∧
      l.cache.Removed w.disk files w'.disk) ∧
    l.cache.files w'.disk = .ok [] ∧ w'.disk.IsTree ∧
    (∀ s ∈ l.sources, w'.registry.get? s.key = none) ∧
    (∀ key, (∀ s ∈ l.sources, s.key ≠ key) → w'.registry.get? key = w.registry.get? key) ∧
    w'.requests = w.requests ∧
    (l.sources ≠ [] → ∀ network now, (l.load network now false w').2.requests =
      (l.sources.map (·.location)).reverse ++ w'.requests) := by
  obtain ⟨d, hcache, hworld⟩ := clear_eq_ok hclear
  obtain ⟨hremoved, hempty, htree'⟩ := Cache.clear_removes hdirectory htree hcache
  obtain ⟨hdisk, hrequests, hregistry⟩ := forEach_remove_spec hmemory
    (fun s hs => Source.isValid_key_of_make (hmade s hs)) hworld
  obtain rfl : w'.disk = d := hdisk
  refine ⟨hremoved, hempty, htree', fun s hs => ?_, fun key hkey => ?_, hrequests, fun hsources =>
    requests_load_of_no_files hdirectory hmade hsources hempty⟩
  · rw [hregistry, if_pos (List.mem_map_of_mem hs)]
  · rw [hregistry, if_neg]
    intro hmem
    obtain ⟨s, hs, hsame⟩ := List.mem_map.mp hmem
    exact hkey s hs hsame

/-- A disk on which two files are listed, of which one is a link out of the directory. A directory, a
broken link and names that no list has are not listed. -/
def cluttered : Disk where
  items := [
    ([.text "data"], .file (.bytes (.text "[]")) 0),
    ([.text "lists"], .directory),
    ([.text "lists", .text ".json"], .file (.bytes (.text "[]")) 0),
    ([.text "lists", .text "My List.json"], .link (.text "../data")),
    ([.text "lists", .text "a.json"], .file (.bytes (.text "[]")) 0),
    ([.text "lists", .text "broken.json"], .link (.text "../missing")),
    ([.text "lists", .text "d.json"], .directory),
    ([.text "lists", .text "d.json", .text "a.json"], .file (.bytes (.text "[]")) 0),
    ([.text "lists", .raw [255, 46, 106, 115, 111, 110]], .file (.bytes (.text "[]")) 0)]

/-- A registry with the list of a source and one of another loader. -/
def shared : Registry where
  lists := [⟨0, { identifier := "a", rules := [], encodedSize := 2 }⟩,
    ⟨1, { identifier := "other", rules := [], encodedSize := 2 }⟩]
  next := 2

/-- The two files are removed, but not what the link leads to. -/
theorem clear_clears_cluttered :
    single.builder.registry = some .memory ∧
      (∀ s ∈ single.sources, Source.make s.identifier s.location = .ok s) ∧
      single.cache.directory ≠ "" ∧ cluttered.IsTree ∧
      ∃ w', single.clear { disk := cluttered, registry := shared } = (.ok 2, w') ∧
        single.cache.files w'.disk = .ok [] ∧
        w'.disk.get? [.text "data"] = some (.file (.bytes (.text "[]")) 0) ∧
        w'.registry.get? "a" = none ∧ w'.registry.get? "other" = shared.get? "other" ∧
        (single.load (fun _ => .error .notFound) 0 false w').2.requests = ["https://a.test/"] := by
  have hmade : ∀ s ∈ single.sources, Source.make s.identifier s.location = .ok s := by
    decide +kernel
  have hdirectory : single.cache.directory ≠ "" := by decide
  have htree : cluttered.IsTree := Disk.isTree_of_forall_items (by decide +kernel)
  have hfiles : single.cache.files cluttered =
      .ok [⟨"My List", "lists/My List.json", 0⟩, ⟨"a", "lists/a.json", 0⟩] := by
    have hnames : cluttered.listDirectory (.text single.cache.directory) =
        .ok [.text ".json", .text "My List.json", .text "a.json", .text "broken.json",
          .text "d.json", .raw [255, 46, 106, 115, 111, 110]] := by
      decide +kernel
    unfold Cache.files
    rw [hnames]
    refine congrArg Except.ok (Eq.trans (List.mergeSort_of_pairwise ?_) ?_) <;> decide +kernel
  have hclear : (single.clear { disk := cluttered, registry := shared }).1 = .ok 2 := by
    unfold clear World.onDisk Cache.clear
    dsimp only
    rw [hfiles]
    decide +kernel
  generalize hw : single.clear { disk := cluttered, registry := shared } = cleared at hclear
  obtain ⟨_, w'⟩ := cleared
  obtain rfl := hclear
  obtain ⟨⟨files, _, _, hremoved⟩, hempty, _, hgone, hothers, hrequests, hnext⟩ :=
    clear_clears (l := single) rfl hmade hdirectory htree hw
  refine ⟨rfl, hmade, hdirectory, htree, w', rfl, hempty, ?_, ?_, ?_, ?_⟩
  · refine (hremoved.kept ([] ++ [.text "data"]) fun f _ hbelongs => ?_).trans ?_
    · -- no list has a name this short
      obtain ⟨_, _, _, hplace⟩ := hbelongs.inDirectory
      have hname := (List.append_inj' hplace rfl).2
      exact Cache.fileName_ne f.identifier (s := "data") (by decide) (List.cons.inj hname).1.symm
    · decide
  · exact hgone ⟨"a", "https://a.test/"⟩ (List.mem_singleton_self _)
  · refine hothers "other" fun s hs => ?_
    obtain rfl := List.mem_singleton.mp hs
    decide +kernel
  · rw [hnext (List.cons_ne_nil _ _), hrequests]
    rfl

end ContentBlocker.Loader
