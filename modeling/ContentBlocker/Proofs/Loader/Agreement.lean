import ContentBlocker.Proofs.Filter.PlainLines
import ContentBlocker.Proofs.Loader.Coherence

/-!
# Cached lists agree with their files

A load that makes no request gives for each source what its file compiles to, if it compiles
(`cached_lists_agree`). It may not: the last refresh may have brought a rule with two lists of sites,
from a line that names sites twice, or a filter that is too large. Then the list from before is given
(`outdated_list_is_given`).
-/

namespace ContentBlocker.Loader

section Agreement

variable [FilterReader] {l : Loader Registry} {w w' : World Registry} {past : Source → List String}

/-- A load that makes no request gives for each source the compilation of the newest text that has
been written for it and compiles. The file of the source holds the newest text, so the list is the
compilation of the file if that compiles. -/
theorem cached_lists_agree (hmemory : l.builder.registry = some .memory)
    (hsources : Source.checkAll l.sources = .ok ()) {start : World Registry}
    (hlinks : start.disk.NoLinks) (hregistry : start.registry.lists = [])
    (hfiles : l.HasNoFiles start.disk)
    (hreaches : l.Reaches start w past) {network : Network} {now : Int} {force : Bool}
    {lists : List RegisteredList} (hload : l.load network now force w = (.ok lists, w'))
    (hquiet : w'.requests = w.requests) :
    List.Forall₂ (fun s list => l.Delivers w'.disk past s list.list) l.sources lists := by
  have hsame : (l.load network now force w).2.requests = w.requests := by rw [hload, hquiet]
  obtain ⟨files, hfresh, heq⟩ := l.load_eq_loadFiles_of_quiet hsame
  have hisFile := isFileOf_of_isFreshFile hfresh
  rw [heq] at hload
  have hlists : (l.loadFiles files w).1 = .ok lists := by rw [hload]
  -- that keys are valid need not be assumed, as the registry has answered for each of them
  have hserves := (l.exists_loadFilesInTurns_iff (.beginTogether 2) files w).mp ⟨lists, hlists⟩
  have hvalid : ∀ s ∈ l.sources, Key.isValid s.key = true := by
    intro s hs
    obtain ⟨f, hf, hfile⟩ := exists_of_forall₂ hisFile hs
    exact hfile.key_eq ▸ isValid_of_serves hmemory (hserves f hf)
  have hl : l.IsRegular := ⟨hmemory, Source.nodup_keys_of_checkAll hsources, hvalid⟩
  have hstart := coherent_of_empty hlinks hregistry hfiles
  have hcoherent := (hstart.of_reaches hl hreaches).loadFiles hl hisFile
  have hregistered := hl.registered_loadFiles hisFile (.beginTogether 2) hlists
  have hdisk := (l.loadFiles_frame files w).1
  rw [show l.loadFilesInTurns (.beginTogether 2) files w = (.ok lists, w') from hload] at hregistered
  rw [hload] at hdisk hcoherent
  refine forall₂_imp_of_mem hregistered fun s hs list hentry => ?_
  obtain ⟨f, _, hf⟩ := exists_of_forall₂ hfresh hs
  exact (hcoherent.agrees s hs).delivers hcoherent.noLinks ⟨f, hdisk.symm ▸ hf⟩ hentry

end Agreement

/-! ### Wildcards -/

/-- A network where every list is a row of wildcards. -/
def wildcards (n : Nat) : Network :=
  fun _ => .ok (String.ofList (Filter.stars n))

/-- What a row of wildcards is translated to. -/
def encodedWildcards (n : Nat) : String :=
  Rule.encodeList [Filter.starsRule n]

theorem encoded?_wildcards {n : Nat} (hn : 1 < n) (s : Source) :
    (single.refresher (wildcards n) 0).encoded? s = some (encodedWildcards n) := by
  have hfetch : Filter.fetch (wildcards n) s.location = .ok [String.ofList (Filter.stars n)] := by
    unfold Filter.fetch wildcards
    simp only [bind, Except.bind]
    rw [Filter.ruleLines_of_isPlain (Filter.isPlain_stars (by omega))]
  have htranslate : single.builder.translate [String.ofList (Filter.stars n)] =
      .ok (encodedWildcards n) := by
    rw [Filter.translate_of_translator rfl,
      Filter.translate_stars hn (by simp [single])]
    rfl
  exact (single.refresher (wildcards n) 0).encoded?_eq_some_iff.mpr ⟨_, hfetch, htranslate⟩

/-- The world after a row of wildcards has been loaded from the network. -/
def refreshed (n : Nat) (w : World Registry) : World Registry :=
  (single.load (wildcards n) 0 true w).2

theorem refreshed_spec {n : Nat} (hn : 1 < n) (w : World Registry) :
    (refreshed n w).disk = (single.cache.write w.disk 0 "a" (encodedWildcards n)).2 ∧
      (refreshed n w).registry =
        (single.builder.compile "a" (encodedWildcards n) w.registry).2 := by
  have hencoded := encoded?_wildcards hn ⟨"a", "https://a.test/"⟩
  exact (single.refresher (wildcards n) 0).refresh_of_some hencoded w

/-- Refreshing a row of wildcards is a step of a run where its file can be written. -/
theorem Reaches.refreshed {start w : World Registry} {past : Source → List String}
    (h : single.Reaches start w past) {n : Nat} (hn : 1 < n)
    (hwrite : ∃ path, (single.cache.write w.disk 0 "a" (encodedWildcards n)).1 = .ok path) :
    single.Reaches start (refreshed n w) fun s => encodedWildcards n :: past s := by
  have hrequests : (single.load (wildcards n) 0 true w).2.requests ≠ w.requests := by
    have hall := single.refreshSources_requests (wildcards n) 0 w
    show (single.refreshSources (wildcards n) 0 w).2.requests ≠ w.requests
    rw [hall]
    simp [single]
  have hwrites : (single.refresher (wildcards n) 0).WritesAll single.sources w.disk := by
    show Refresher.WritesAll _ [⟨"a", "https://a.test/"⟩] _
    rw [Refresher.WritesAll, encoded?_wildcards hn]
    exact ⟨hwrite, trivial⟩
  have hstep := h.refresh (wildcards n) 0 true hrequests hwrites
  simp only [encoded?_wildcards hn] at hstep
  exact hstep

/-- The list of a row that is not too large is registered. -/
theorem get?_refreshed {n : Nat} (hn : 1 < n) (hsmall : n * 480 ≤ Regex.sizeLimit)
    (w : World Registry) : ∃ entry, (refreshed n w).registry.get? "a" = some entry := by
  have hmemory : single.builder.registry = some .memory := rfl
  have hvalid : Key.isValid (Key.ofIdentifier "a") = true := by decide
  rw [(refreshed_spec hn w).2]
  rcases ListBuilder.compile_memory hmemory hvalid (encodedWildcards n) w.registry with
    ⟨list, hlist, hcompile⟩ | ⟨e, herror, _⟩
  · have hkey : list.identifier = "a" := CompiledList.identifier_of_compile hlist
    rw [hcompile, Registry.get?_insert, if_pos hkey.symm]
    exact ⟨_, rfl⟩
  · obtain ⟨list, hlist⟩ := (Filter.compile_stars_iff (by omega) "a").mpr hsmall
    exact absurd (hlist.symm.trans herror) (by simp)

/-- A row that is too large leaves the registry as it was. -/
theorem registry_refreshed {n : Nat} (hn : 1 < n) (hlarge : Regex.sizeLimit < n * 480)
    (w : World Registry) : (refreshed n w).registry = w.registry := by
  have hmemory : single.builder.registry = some .memory := rfl
  have hvalid : Key.isValid (Key.ofIdentifier "a") = true := by decide
  rw [(refreshed_spec hn w).2]
  rcases ListBuilder.compile_memory hmemory hvalid (encodedWildcards n) w.registry with
    ⟨list, hlist, _⟩ | ⟨e, _, hcompile⟩
  · have hsmall := (Filter.compile_stars_iff (by omega) "a").mp ⟨list, hlist⟩
    omega
  · rw [hcompile]

/-- The list of a source is given without a request once it is registered and its file is fresh. -/
theorem load_single {w : World Registry} {text : String} {entry : RegisteredList}
    (hread : w.disk.readFile (.text (single.cache.path "a")) = .ok (.text text, 0))
    (hentry : w.registry.get? "a" = some entry) (network : Network) :
    ∃ lists w', single.load network 0 false w = (.ok lists, w') ∧ w'.disk = w.disk ∧
      w'.requests = w.requests := by
  have hsingle : single.IsRegular := ⟨rfl, by decide, by decide⟩
  have hfresh : ∀ s ∈ single.sources, single.HasFreshFile w.disk 0 s := by
    intro s hs
    obtain rfl : s = ⟨"a", "https://a.test/"⟩ := by simpa [single] using hs
    exact single.hasFreshFile_iff.mpr ⟨0, Disk.modified_of_readFile hread, by decide⟩
  have hregistered : List.Forall₂ (fun s list => w.registry.get? s.key = some list)
      single.sources [entry] := .cons hentry .nil
  exact ⟨_, w, hsingle.load_of_registered hregistered hfresh network, rfl, rfl⟩

/-- The list that a load from the network has left is given to the next load, and is what the file
of the source compiles to. -/
theorem cached_lists_agree_of_refreshed :
    ∃ lists w', single.load (wildcards 2) 0 false (refreshed 2 { disk := {}, registry := {} }) =
        (.ok lists, w') ∧
      w'.requests = (refreshed 2 { disk := {}, registry := {} }).requests ∧
      List.Forall₂
        (fun s list => single.Delivers w'.disk (fun _ => [encodedWildcards 2]) s list.list)
        single.sources lists := by
  have hreaches : single.Reaches { disk := {}, registry := {} }
      (refreshed 2 { disk := {}, registry := {} }) fun _ => [encodedWildcards 2] :=
    Reaches.start.refreshed (by decide) ⟨_, rfl⟩
  obtain ⟨entry, hentry⟩ := get?_refreshed (n := 2) (by decide) (by decide)
    { disk := {}, registry := {} }
  have hread : (refreshed 2 { disk := {}, registry := {} }).disk.readFile
      (.text (single.cache.path "a")) = .ok (.text (encodedWildcards 2), 0) := by
    rw [(refreshed_spec (by decide) _).1]
    rfl
  obtain ⟨lists, w', hload, _, hquiet⟩ := load_single hread hentry (wildcards 2)
  refine ⟨lists, w', hload, hquiet, ?_⟩
  refine cached_lists_agree rfl (by decide) Disk.noLinks_empty rfl ?_ hreaches hload hquiet
  intro s hs place hplace
  obtain rfl : s = ⟨"a", "https://a.test/"⟩ := by simpa [single] using hs
  cases hplace
  rfl

/-- The world after a short row of wildcards has been loaded from the network and then a very long
one, starting with an empty cache and an empty registry. -/
def outdated : World Registry :=
  refreshed 10000 (refreshed 2 { disk := {}, registry := {} })

/-- A list may be given that its file does not compile to. -/
theorem outdated_list_is_given :
    Source.checkAll single.sources = .ok () ∧
      single.Reaches { disk := {}, registry := {} } outdated
        (fun _ => [encodedWildcards 10000, encodedWildcards 2]) ∧
      ∃ lists w', single.load (wildcards 10000) 0 false outdated = (.ok lists, w') ∧
        w'.requests = outdated.requests ∧
        ¬List.Forall₂ (fun s list => ∃ text modified,
          w'.disk.readFile (.text (single.cache.path s.identifier)) = .ok (.text text, modified) ∧
            CompiledList.compile s.key text = .ok list.list) single.sources lists := by
  have hshort : 1 < 2 := by decide
  have hlong : 1 < 10000 := by decide
  have hlarge : Regex.sizeLimit < 10000 * 480 := by decide
  have hreaches : single.Reaches { disk := {}, registry := {} } outdated
      fun _ => [encodedWildcards 10000, encodedWildcards 2] := by
    refine (Reaches.start.refreshed hshort ⟨_, rfl⟩).refreshed hlong ?_
    rw [(refreshed_spec hshort _).1]
    exact ⟨_, rfl⟩
  obtain ⟨entry, hentry⟩ := get?_refreshed hshort (by decide) { disk := {}, registry := {} }
  rw [← registry_refreshed hlong hlarge] at hentry
  have hread : outdated.disk.readFile (.text (single.cache.path "a")) =
      .ok (.text (encodedWildcards 10000), 0) := by
    rw [outdated, (refreshed_spec hlong _).1, (refreshed_spec hshort _).1]
    -- what the text says does not matter to the disk
    generalize encodedWildcards 10000 = long
    rfl
  obtain ⟨lists, w', hload, hdisk, hquiet⟩ := load_single hread hentry (wildcards 10000)
  refine ⟨by decide, hreaches, lists, w', hload, hquiet, ?_⟩
  rintro (_ | ⟨⟨text, modified, hfile, hcompile⟩, _⟩)
  rw [hdisk] at hfile
  obtain ⟨rfl, _⟩ : encodedWildcards 10000 = text ∧ 0 = modified := by
    simpa using hread.symm.trans hfile
  have hsmall := (Filter.compile_stars_iff (by decide) "a").mp ⟨_, hcompile⟩
  exact absurd hsmall (by decide)

end ContentBlocker.Loader
