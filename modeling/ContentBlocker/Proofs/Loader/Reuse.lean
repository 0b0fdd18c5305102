import ContentBlocker.Proofs.Loader.Interleaving

/-!
# Using lists again

A load leaves every list that it gives registered under the key of its source
(`Loader.IsRegular.registered_of_loadInTurns`). So the loads that follow find all lists there, give
the very same ones and change nothing, as long as all files are fresh (`Loader.load_again`).

A refresh leaves in the file of every source the text that the list was compiled from
(`Loader.IsRegular.readFile_refreshSources`). So after a restart equal lists are compiled from the
files (`Loader.load_after_restart`), whatever the network and the translator do by then.
-/

namespace ContentBlocker

/-! ### Texts that are written -/

namespace Refresher

variable {r : Refresher Registry} {sources : List Source}

/-- Where every source gives a text, these are written one after the other. -/
theorem disk_forEach_refresh (h : ∀ s ∈ sources, (r.encoded? s).isSome) (w : World Registry) :
    (w.forEach r.refresh sources).2.disk = r.cache.writes r.now w.disk (sources.map r.text) := by
  induction sources generalizing w with
  | nil => rfl
  | cons s sources ih =>
    obtain ⟨encoded, hencoded⟩ := Option.isSome_iff_exists.mp (h s (List.mem_cons_self ..))
    have hrest := ih (fun x hx => h x (List.mem_cons_of_mem s hx)) (r.refresh s w).2
    rw [(r.refresh_of_some hencoded w).1] at hrest
    rw [List.map_cons, text_of_encoded hencoded]
    exact hrest

/-- Lists that can all be written one after the other have targets from the start. -/
theorem exists_target_of_writesAll {d : Disk}
    (hplain : r.cache.ArePlain d ((sources.map r.text).map (·.1))) (h : r.WritesAll sources d)
    {s : Source} (hs : s ∈ sources) (hsome : (r.encoded? s).isSome) :
    ∃ place, r.cache.target? d s.identifier = some place := by
  induction sources generalizing d with
  | nil => cases hs
  | cons first sources ih =>
    rw [WritesAll] at h
    obtain ⟨hid, hfirst⟩ := hplain first.identifier (List.mem_cons_self ..)
    cases hencoded : r.encoded? first with
    | none =>
      rw [hencoded] at h
      rcases List.mem_cons.mp hs with rfl | hs
      · rw [hencoded] at hsome
        cases hsome
      · exact ih (fun other hother => hplain other (List.mem_cons_of_mem _ hother)) h hs
    | some encoded =>
      rw [hencoded] at h
      obtain ⟨⟨path, hwrite⟩, hrest⟩ := h
      rcases List.mem_cons.mp hs with rfl | hs
      · exact Cache.exists_target_of_write hwrite
      · -- writing the first list has not moved the other targets
        have hwritten := Cache.written_write hid hfirst r.now encoded
        obtain ⟨place, htarget⟩ := ih (hplain.mono hwritten (List.subset_cons_self ..)) hrest hs
        have hmem : s.identifier ∈ (sources.map r.text).map (·.1) := by
          rw [List.map_map]
          exact List.mem_map_of_mem hs
        obtain ⟨hid', hplain'⟩ := hplain s.identifier (List.mem_cons_of_mem _ hmem)
        exact ⟨place, (hwritten.target?_eq s.identifier hid' hplain').symm.trans htarget⟩

end Refresher

namespace Loader

section AnyReader

variable [FilterReader] {l : Loader Registry} {w : World Registry} {network : Network} {now : Int}

/-! ### Registered lists -/

/-- A refresh leaves the lists that it gives registered under the keys of their sources. -/
theorem IsRegular.registered_refreshInTurns (hl : l.IsRegular)
    (turns : Turns Source Refresher.stages) {lists : List RegisteredList}
    (h : (l.refreshInTurns turns network now w).1 = .ok lists) :
    List.Forall₂
      (fun s list => (l.refreshInTurns turns network now w).2.registry.get? s.key = some list)
      l.sources lists := by
  obtain ⟨done, hrun⟩ := underWay_start.run (r := l.refresher network now) (w := w) hl hl.registry
    (turns.subset l.sources)
  exact (allLists_map_eq_ok_iff.mp h).imp fun s list hlist =>
    (hrun.registered s list (Progress.result_eq_ok_iff.mp hlist)).1

/-- A load leaves the lists that it gives registered under the keys of their sources. -/
theorem IsRegular.registered_of_loadInTurns (hl : l.IsRegular)
    (fileTurns : Turns CacheFile ListBuilder.fileStages)
    (sourceTurns : Turns Source Refresher.stages) {force : Bool} {lists : List RegisteredList}
    (h : (l.loadInTurns fileTurns sourceTurns network now force w).1 = .ok lists) :
    List.Forall₂ (fun s list =>
      (l.loadInTurns fileTurns sourceTurns network now force w).2.registry.get? s.key = some list)
      l.sources lists := by
  unfold loadInTurns at h ⊢
  rcases l.loadBy_cases (l.loadFilesInTurns fileTurns) (l.refreshInTurns sourceTurns network now) now
    force w with ⟨_, files, hfresh, _, hload⟩ | ⟨hload, _⟩ | ⟨_, files, _, _, hload⟩
  · rw [hload] at h ⊢
    exact hl.registered_loadFiles (isFileOf_of_isFreshFile hfresh) fileTurns h
  · rw [hload] at h ⊢
    exact hl.registered_refreshInTurns sourceTurns h
  · rw [hload] at h ⊢
    exact hl.registered_refreshInTurns sourceTurns h

/-- A load that succeeds is repeated by every load that may use the cache while all files are fresh,
in whatever order files and sources take turns. -/
theorem IsRegular.loadInTurns_again (hl : l.IsRegular)
    {fileTurns fileTurns' : Turns CacheFile ListBuilder.fileStages}
    {sourceTurns sourceTurns' : Turns Source Refresher.stages} {force : Bool} {w' : World Registry}
    {lists : List RegisteredList}
    (hload : l.loadInTurns fileTurns sourceTurns network now force w = (.ok lists, w'))
    {later : Int} (hfresh : ∀ s ∈ l.sources, l.HasFreshFile w'.disk later s) (network' : Network) :
    l.loadInTurns fileTurns' sourceTurns' network' later false w' = (.ok lists, w') := by
  have hregistered := hl.registered_of_loadInTurns fileTurns sourceTurns (congrArg Prod.fst hload)
  rw [hload] at hregistered
  exact hl.loadInTurns_of_registered hregistered hfresh fileTurns' sourceTurns' network'

omit [FilterReader] in
/-- A load that may not use the cache is a refresh. -/
theorem load_true (network : Network) (now : Int) (w : World Registry) :
    l.load network now true w = l.refreshSources network now w :=
  rfl

/-- A load that may not use the cache gives lists where every source makes one. -/
theorem IsRegular.load_of_gives (hl : l.IsRegular)
    (hgives : ∀ s ∈ l.sources, ∃ list, (l.refresher network now).Gives s list)
    (w : World Registry) : ∃ lists w', l.load network now true w = (.ok lists, w') := by
  obtain ⟨lists, hlists⟩ := (hl.refreshSources_gives network now w).1.mpr hgives
  exact ⟨lists, _, Prod.ext hlists rfl⟩

/-! ### Files after a refresh -/

/-- After a refresh whose lists could all be written, the file of each source holds its text. -/
theorem IsRegular.readFile_refreshSources (hl : l.IsRegular)
    (hplain : ∀ s ∈ l.sources, l.cache.IsPlain w.disk s.identifier)
    (hwrites : (l.refresher network now).WritesAll l.sources w.disk) {lists : List RegisteredList}
    (h : (l.refreshSources network now w).1 = .ok lists) {s : Source} (hs : s ∈ l.sources) :
    ∃ encoded, (l.refresher network now).encoded? s = some encoded ∧
      (l.refreshSources network now w).2.disk.readFile (.text (l.cache.path s.identifier)) =
        .ok (.text encoded, now) := by
  have hall : ∀ x ∈ l.sources, ((l.refresher network now).encoded? x).isSome := by
    intro x hx
    obtain ⟨list, hlist⟩ := (hl.refreshSources_gives network now w).1.mp ⟨lists, h⟩ x hx
    obtain ⟨encoded, hencoded, _⟩ := Refresher.gives_iff.mp hlist
    rw [hencoded]
    rfl
  obtain ⟨encoded, hencoded⟩ := Option.isSome_iff_exists.mp (hall s hs)
  have harePlain := hl.arePlain (r := l.refresher network now) hplain fun _ hx => hx
  have hnodup := hl.nodup_texts (r := l.refresher network now) (fun _ hx => hx) hl.nodup
  have hmem : (s.identifier, encoded) ∈ l.sources.map (l.refresher network now).text := by
    rw [← Refresher.text_of_encoded hencoded]
    exact List.mem_map_of_mem hs
  obtain ⟨place, htarget⟩ :=
    Refresher.exists_target_of_writesAll harePlain hwrites hs (hall s hs)
  refine ⟨encoded, hencoded, ?_⟩
  show (w.forEach (l.refresher network now).refresh l.sources).2.disk.readFile _ = _
  rw [Refresher.disk_forEach_refresh hall]
  exact Cache.readFile_writes harePlain hnodup hmem htarget now

/-- The lists that a refresh gives are what the files compile to, if all could be written. -/
theorem IsRegular.texts_of_refreshSources (hl : l.IsRegular)
    (hplain : ∀ s ∈ l.sources, l.cache.IsPlain w.disk s.identifier)
    (hwrites : (l.refresher network now).WritesAll l.sources w.disk) {lists : List RegisteredList}
    (h : (l.refreshSources network now w).1 = .ok lists) :
    List.Forall₂ (fun s list => ∃ text,
      (l.refreshSources network now w).2.disk.readText (.text (l.cache.path s.identifier)) =
          .ok text ∧
        CompiledList.compile s.key text = .ok list.list) l.sources lists := by
  have hgives := (hl.refreshSources_gives network now w).2 lists h
  refine forall₂_imp_of_mem hgives fun s hs list hlist => ?_
  obtain ⟨text, htext, hcompile⟩ := Refresher.gives_iff.mp hlist
  obtain ⟨encoded, hencoded, hread⟩ := hl.readFile_refreshSources hplain hwrites h hs
  obtain rfl := Option.some.inj (hencoded.symm.trans htext)
  exact ⟨encoded, Disk.readText_iff.mpr ⟨now, hread⟩, hcompile⟩

/-! ### Loading again -/

/-- After a load that succeeds, all loads that may use the cache give the very same lists, make no
request and leave everything as it is, as long as every file can be read and is younger than the
retention. After a refresh whose lists could all be written, to files that are no links, every file
can be read, and only time makes it stale. -/
theorem load_again [UrlChecker] (hmemory : l.builder.registry = some .memory)
    (hmade : ∀ s ∈ l.sources, Source.make s.identifier s.location = .ok s)
    (hsources : Source.checkAll l.sources = .ok ()) {w' : World Registry} {force : Bool}
    {lists : List RegisteredList} (hload : l.load network now force w = (.ok lists, w')) :
    (∀ calls : List (Network × Int),
      (∀ call ∈ calls, ∀ s ∈ l.sources, l.HasFreshFile w'.disk call.2 s) →
      w'.forEach (fun call => l.load call.1 call.2 false) calls =
        (calls.map fun _ => .ok lists, w')) ∧
    (force = true ∨ w'.requests ≠ w.requests →
      (l.refresher network now).WritesAll l.sources w.disk →
      (∀ s ∈ l.sources, l.cache.IsPlain w.disk s.identifier) →
      ∀ s ∈ l.sources,
        (∃ text, w'.disk.readText (.text (l.cache.path s.identifier)) = .ok text) ∧
        ∀ later : Int, l.HasFreshFile w'.disk later s ↔ (later - now).toNat < l.cache.retention) := by
  have hl := isRegular_of_make hmemory hmade hsources
  refine ⟨fun calls hfresh => ?_, fun hnetwork hwrites hplain s hs => ?_⟩
  · rw [l.load_eq_loadInTurns network now hl.nodup] at hload
    induction calls with
    | nil => rfl
    | cons call calls ih =>
      have hfirst : l.load call.1 call.2 false w' = (.ok lists, w') := by
        rw [l.load_eq_loadInTurns call.1 call.2 hl.nodup]
        exact hl.loadInTurns_again hload (hfresh call (List.mem_cons_self ..)) call.1
      have hrest := ih fun other hother => hfresh other (List.mem_cons_of_mem call hother)
      rw [World.forEach, hfirst]
      dsimp only
      rw [hrest]
      rfl
  · have hrefreshed : force = true ∨ (l.load network now force w).2.requests ≠ w.requests := by
      rwa [hload]
    obtain ⟨w₀, hdisk, hsame⟩ := load_eq_refreshSources_of_disk hrefreshed
    have hrefresh : l.refreshSources network now w₀ = (.ok lists, w') := hsame.symm.trans hload
    rw [← hdisk] at hwrites hplain
    obtain ⟨encoded, _, hread⟩ :=
      hl.readFile_refreshSources hplain hwrites (congrArg Prod.fst hrefresh) hs
    have hfile : w'.disk.readFile (.text (l.cache.path s.identifier)) =
        .ok (.text encoded, now) := by
      rwa [hrefresh] at hread
    have hopened := Disk.modified_of_readFile hfile
    refine ⟨⟨encoded, Disk.readText_iff.mpr ⟨now, hfile⟩⟩, fun later => ?_⟩
    rw [hasFreshFile_iff]
    constructor
    · rintro ⟨modified, hfound, hyoung⟩
      obtain rfl := Except.ok.inj (hopened.symm.trans hfound)
      exact hyoung
    · exact fun hyoung => ⟨now, hopened, hyoung⟩

end AnyReader

/-- A loader of two sources, of which the first has different names in the registry and on disk. -/
def spaced : Loader Registry :=
  { single with sources := [⟨"My List", "https://a.test/"⟩, ⟨"b", "https://b.test/"⟩] }

-- Otherwise rows of wildcards are translated while the statements below are elaborated.
attribute [local irreducible] wildcards

theorem make_of_mem_spaced : ∀ s ∈ spaced.sources, Source.make s.identifier s.location = .ok s := by
  intro s hs
  rcases List.mem_pair.mp hs with rfl | rfl <;> decide +kernel

theorem load_spaced (w : World Registry) :
    ∃ lists w', spaced.load (wildcards 2) 0 true w = (.ok lists, w') := by
  have hl := isRegular_of_make (l := spaced) rfl make_of_mem_spaced (by decide)
  refine hl.load_of_gives (fun s _ => ?_) w
  obtain ⟨list, hlist⟩ := (Filter.compile_stars_iff (n := 2) (by decide) s.key).mpr (by decide)
  exact ⟨list, Refresher.gives_iff.mpr ⟨_, encoded?_wildcards (by decide) s, hlist⟩⟩

theorem writesAll_spaced : (spaced.refresher (wildcards 2) 0).WritesAll spaced.sources {} := by
  have hencoded : ∀ s, (spaced.refresher (wildcards 2) 0).encoded? s = some (encodedWildcards 2) :=
    encoded?_wildcards (by decide)
  show Refresher.WritesAll _ [⟨"My List", "https://a.test/"⟩, ⟨"b", "https://b.test/"⟩] _
  simp only [Refresher.WritesAll, hencoded]
  -- what the texts say does not matter to the disk
  generalize encodedWildcards 2 = encoded
  exact ⟨⟨_, rfl⟩, ⟨_, rfl⟩, trivial⟩

theorem isPlain_spaced : ∀ s ∈ spaced.sources, spaced.cache.IsPlain {} s.identifier :=
  fun s _ => Cache.isPlain_of_noLinks Disk.noLinks_empty s.identifier

/-- The lists of two sources are given again while there is no network, and an hour later are not
fresh any more. -/
theorem load_again_of_two_sources :
    spaced.builder.registry = some .memory ∧
      (∀ s ∈ spaced.sources, Source.make s.identifier s.location = .ok s) ∧
      Source.checkAll spaced.sources = .ok () ∧
      (spaced.refresher (wildcards 2) 0).WritesAll spaced.sources {} ∧
      (∀ s ∈ spaced.sources, spaced.cache.IsPlain {} s.identifier) ∧
      ∃ lists w', spaced.load (wildcards 2) 0 true { disk := {}, registry := {} } =
          (.ok lists, w') ∧
        w'.forEach (fun call => spaced.load call.1 call.2 false)
            [(fun _ => .error .notFound, 0), (wildcards 3, 3599 * second)] =
          ([.ok lists, .ok lists], w') ∧
        ∀ s ∈ spaced.sources, ¬spaced.HasFreshFile w'.disk (3600 * second) s := by
  have hsources : Source.checkAll spaced.sources = .ok () := by decide
  obtain ⟨lists, w', hload⟩ := load_spaced { disk := {}, registry := {} }
  obtain ⟨hagain, hages⟩ := load_again (l := spaced) rfl make_of_mem_spaced hsources hload
  have hfresh := hages (.inl rfl) writesAll_spaced isPlain_spaced
  refine ⟨rfl, make_of_mem_spaced, hsources, writesAll_spaced, isPlain_spaced, lists, w', hload, ?_,
    fun s hs => ?_⟩
  · refine hagain _ fun call hcall s hs => ((hfresh s hs).2 _).mpr ?_
    rcases List.mem_pair.mp hcall with rfl | rfl <;> simp [spaced, single, second]
  · rw [(hfresh s hs).2]
    simp [spaced, single, second]

/-! ### Loading after a restart -/

/-- After a refresh whose lists could all be written, to files that are no links, another loader of
the same sources with the same directory gives equal lists from the files, without a request, while
they are younger than its retention. Its registry is empty at first; its network, translator and
settings do not matter. -/
theorem load_after_restart [FilterReader] [UrlChecker] {l : Loader Registry} {w : World Registry}
    {network : Network} {now : Int} (hmemory : l.builder.registry = some .memory)
    (hmade : ∀ s ∈ l.sources, Source.make s.identifier s.location = .ok s)
    (hsources : Source.checkAll l.sources = .ok ()) {w' : World Registry}
    {lists : List RegisteredList} (hload : l.load network now true w = (.ok lists, w'))
    (hwrites : (l.refresher network now).WritesAll l.sources w.disk)
    (hplain : ∀ s ∈ l.sources, l.cache.IsPlain w.disk s.identifier) (l' : Loader Registry)
    (hsame : l'.sources = l.sources) (hdirectory : l'.cache.directory = l.cache.directory)
    (hmemory' : l'.builder.registry = some .memory) {later : Int}
    (hyoung : ∀ s ∈ l'.sources, ∀ content modified,
      w'.disk.readFile (.text (l'.cache.path s.identifier)) = .ok (content, modified) →
        (later - modified).toNat < l'.cache.retention)
    (network' : Network) (requests : List String) :
    ∃ lists' registry',
      l'.load network' later false { disk := w'.disk, registry := {}, requests } =
        (.ok lists', { disk := w'.disk, registry := registry', requests }) ∧
      lists'.map (·.list) = lists.map (·.list) := by
  have hl := isRegular_of_make hmemory hmade hsources
  have hl' : l'.IsRegular := ⟨hmemory', hsame ▸ hl.distinct, hsame ▸ hl.valid⟩
  have hpath : l'.cache.path = l.cache.path := by
    funext identifier
    unfold Cache.path
    rw [hdirectory]
  have hrefresh : l.refreshSources network now w = (.ok lists, w') :=
    (load_true network now w).symm.trans hload
  have hlists : (l.refreshSources network now w).1 = .ok lists := by rw [hrefresh]
  have htexts := hl.texts_of_refreshSources hplain hwrites hlists
  rw [hrefresh, ← hpath, ← hsame] at htexts
  have hfresh : ∀ s ∈ l'.sources, l'.HasFreshFile w'.disk later s := by
    intro s hs
    obtain ⟨encoded, _, hread⟩ := hl.readFile_refreshSources hplain hwrites hlists (hsame ▸ hs)
    rw [hrefresh, ← hpath] at hread
    exact l'.hasFreshFile_iff.mpr ⟨now, Disk.modified_of_readFile hread, hyoung s hs _ _ hread⟩
  obtain ⟨files, hcheck⟩ := l'.exists_check_iff.mpr hfresh
  have hfiles := l'.check_eq_some_iff.mp hcheck
  obtain ⟨lists', registry', hfromFiles, hequal⟩ :=
    hl'.loadFiles_of_texts (w := { disk := w'.disk, registry := {}, requests })
      (isFileOf_of_isFreshFile hfiles) htexts (fun _ _ => rfl) (.beginTogether 2)
  have hload' : l'.load network' later false { disk := w'.disk, registry := {}, requests } =
      l'.loadFiles files { disk := w'.disk, registry := {}, requests } :=
    l'.loadBy_eq_fromFiles _ _ hfiles (congrArg Prod.fst hfromFiles)
  exact ⟨lists', registry', hload'.trans hfromFiles, hequal⟩

/-- The loader of the same two sources after a restart. Its translator crashes, no rule is allowed,
and files are fresh for a minute. -/
def restarted : Loader Registry where
  sources := spaced.sources
  cache := { spaced.cache with retention := 60 * second }
  builder := {
    translator := fun _ _ _ => .crash, registry := some .memory, limit := 0, optimize := true }
  retention := 60 * second
  retention_eq := rfl

/-- Without a network and with a translator that crashes, equal lists come from the files. -/
theorem load_after_restart_of_two_sources :
    spaced.builder.registry = some .memory ∧
      (∀ s ∈ spaced.sources, Source.make s.identifier s.location = .ok s) ∧
      Source.checkAll spaced.sources = .ok () ∧
      (spaced.refresher (wildcards 2) 0).WritesAll spaced.sources {} ∧
      (∀ s ∈ spaced.sources, spaced.cache.IsPlain {} s.identifier) ∧
      restarted.sources = spaced.sources ∧
      restarted.cache.directory = spaced.cache.directory ∧
      restarted.builder.registry = some .memory ∧
      ∃ lists w', spaced.load (wildcards 2) 0 true { disk := {}, registry := {} } =
          (.ok lists, w') ∧
        (∀ s ∈ restarted.sources, ∀ content modified,
          w'.disk.readFile (.text (restarted.cache.path s.identifier)) = .ok (content, modified) →
            ((59 * second : Int) - modified).toNat < restarted.cache.retention) ∧
        ∃ lists' registry',
          restarted.load (fun _ => .error .notFound) (59 * second) false
              { disk := w'.disk, registry := {} } =
            (.ok lists', { disk := w'.disk, registry := registry' }) ∧
          lists'.map (·.list) = lists.map (·.list) := by
  have hsources : Source.checkAll spaced.sources = .ok () := by decide
  obtain ⟨lists, w', hload⟩ := load_spaced { disk := {}, registry := {} }
  have hrefresh : spaced.refreshSources (wildcards 2) 0 { disk := {}, registry := {} } =
      (.ok lists, w') := (load_true _ _ _).symm.trans hload
  have hl := isRegular_of_make (l := spaced) rfl make_of_mem_spaced hsources
  have hyoung : ∀ s ∈ restarted.sources, ∀ content modified,
      w'.disk.readFile (.text (restarted.cache.path s.identifier)) = .ok (content, modified) →
        ((59 * second : Int) - modified).toNat < restarted.cache.retention := by
    intro s hs content modified hread
    obtain ⟨encoded, _, hwritten⟩ :=
      hl.readFile_refreshSources isPlain_spaced writesAll_spaced (congrArg Prod.fst hrefresh) hs
    rw [hrefresh] at hwritten
    obtain ⟨_, rfl⟩ := Prod.mk.inj (Except.ok.inj (hwritten.symm.trans hread))
    simp [restarted, second]
  exact ⟨rfl, make_of_mem_spaced, hsources, writesAll_spaced, isPlain_spaced, rfl, rfl, rfl, lists,
    w', hload, hyoung, load_after_restart (l := spaced) rfl make_of_mem_spaced hsources hload
      writesAll_spaced isPlain_spaced restarted rfl rfl rfl hyoung _ []⟩

end Loader

end ContentBlocker
