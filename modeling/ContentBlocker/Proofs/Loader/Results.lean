import ContentBlocker.Proofs.Loader.Agreement

/-!
# What a load gives

A load gives one list for each source in their order, each with the key of its source and with at
least one rule, or that some were not found (`load_follows_sources`). After any calls of the loader
this holds of lists from the network, from files and from the registry alike: the registry only ever
holds lists with rules (`Loader.holdsRules_of_hasRun`), and a list under the key that it is looked up
by.

Whether a refresh succeeds is decided by the sources alone (`Refresher.Gives`), not by what the disk
and the registry hold. So a load that may use the cache succeeds whenever one that may not does.
-/

namespace ContentBlocker

section AnyReader

variable [FilterReader]

/-! ### Lists with rules -/

/-- Whether every list in a registry has a rule. -/
def Registry.HoldsRules (r : Registry) : Prop :=
  ∀ key entry, r.get? key = some entry → entry.list.rules ≠ []

omit [FilterReader] in
theorem Registry.HoldsRules.insert {r : Registry} (h : r.HoldsRules) {list : CompiledList}
    (hrules : list.rules ≠ []) : (r.insert list).HoldsRules := by
  intro key entry hentry
  rw [Registry.get?_insert] at hentry
  split at hentry
  · obtain rfl := Option.some.inj hentry
    exact hrules
  · exact h key entry hentry

theorem Registry.HoldsRules.compile {b : ListBuilder Registry} (hb : b.registry = some .memory)
    {identifier : String} (hkey : Key.isValid (Key.ofIdentifier identifier) = true)
    {r : Registry} (h : r.HoldsRules) (encoded : String) :
    (b.compile identifier encoded r).2.HoldsRules := by
  rcases ListBuilder.compile_memory hb hkey encoded r with ⟨list, hlist, hcompile⟩ | ⟨e, _, hcompile⟩
  · rw [hcompile]
    exact h.insert (CompiledList.rules_ne_nil_of_compile hlist)
  · rw [hcompile]
    exact h

/-! ### Refreshing -/

namespace Refresher

/-- Whether a refresh makes this list of a source: its list can be fetched, translated and
compiled. -/
def Gives {σ : Type} (r : Refresher σ) (s : Source) (list : CompiledList) : Prop :=
  ∃ lines encoded, Filter.fetch r.network s.location = .ok lines ∧
    r.builder.translate lines = .ok encoded ∧ CompiledList.compile s.key encoded = .ok list

theorem gives_iff {σ : Type} {r : Refresher σ} {s : Source} {list : CompiledList} :
    r.Gives s list ↔
      ∃ encoded, r.encoded? s = some encoded ∧ CompiledList.compile s.key encoded = .ok list := by
  simp only [Gives, encoded?_eq_some_iff]
  constructor
  · rintro ⟨lines, encoded, hfetch, htranslate, hcompile⟩
    exact ⟨encoded, ⟨lines, hfetch, htranslate⟩, hcompile⟩
  · rintro ⟨encoded, ⟨lines, hfetch, htranslate⟩, hcompile⟩
    exact ⟨lines, encoded, hfetch, htranslate, hcompile⟩

variable {r : Refresher Registry} {s : Source} (hregistry : r.builder.registry = some .memory)
  (hkey : Key.isValid s.key = true)

include hregistry hkey

/-- What comes out of a refresh does not depend on the world, but for the serial number. -/
theorem refresh_ok_iff (list : CompiledList) (w : World Registry) :
    (∃ serial, (r.refresh s w).1 = .ok ⟨serial, list⟩) ↔ r.Gives s list := by
  rw [gives_iff]
  cases hencoded : r.encoded? s with
  | none =>
    obtain ⟨e, hrefresh⟩ := r.refresh_eq_of_none hencoded w
    simp [hrefresh]
  | some encoded =>
    rw [r.refresh_eq_of_some hencoded w]
    rcases ListBuilder.compile_memory hregistry hkey encoded w.registry with
      ⟨list', hlist, hcompile⟩ | ⟨e, herror, hcompile⟩
    · rw [hcompile]
      have hlist' : CompiledList.compile s.key encoded = .ok list' := hlist
      simp [hlist']
    · rw [hcompile]
      have herror' : CompiledList.compile s.key encoded = .error e := herror
      simp [herror']

theorem holdsRules_refresh {w : World Registry} (h : w.registry.HoldsRules) :
    (r.refresh s w).2.registry.HoldsRules := by
  cases hencoded : r.encoded? s with
  | none =>
    rw [(r.refresh_of_none hencoded w).2]
    exact h
  | some encoded =>
    rw [(r.refresh_of_some hencoded w).2]
    exact h.compile hregistry hkey encoded

end Refresher

namespace Loader

/-! ### Lists of sources -/

variable {l : Loader Registry}

/-- Whether a list is one that a load may give for a source. -/
def IsListOf (s : Source) (list : RegisteredList) : Prop :=
  list.list.identifier = s.key ∧ list.list.rules ≠ []

theorem isListOf_of_gives {r : Refresher Registry} {s : Source} {list : RegisteredList}
    (h : r.Gives s list.list) : IsListOf s list := by
  obtain ⟨lines, encoded, _, _, hcompile⟩ := h
  exact ⟨CompiledList.identifier_of_compile hcompile,
    CompiledList.rules_ne_nil_of_compile hcompile⟩

omit [FilterReader] in
/-- A list that is registered is one that may be given. -/
theorem isListOf_of_registered {registry : Registry} (h : registry.HoldsRules) {s : Source}
    {list : RegisteredList} (hlist : registry.get? s.key = some list) : IsListOf s list :=
  ⟨Registry.identifier_of_get? hlist, h _ list hlist⟩

/-- Loading files registers only lists with rules. -/
theorem IsRegular.holdsRules_loadFiles (hl : l.IsRegular) {files : List CacheFile}
    (hfiles : List.Forall₂ l.IsFileOf l.sources files) {w : World Registry}
    (h : w.registry.HoldsRules) : (l.loadFiles files w).2.registry.HoldsRules := by
  intro key entry hentry
  by_cases hkey : ∃ s ∈ l.sources, s.key = key
  · obtain ⟨s, hs, rfl⟩ := hkey
    obtain ⟨f, hf, hfile⟩ := exists_of_forall₂ hfiles hs
    have houtcome : f.outcome w = .ok entry.list :=
      hl.outcome_of_get?_loadFiles hfiles (.beginTogether 2) hf (hfile.key_eq ▸ hentry)
    cases hfound : w.registry.get? f.key with
    | some found =>
      rw [CacheFile.outcome_of_registered hfound] at houtcome
      exact Except.ok.inj houtcome ▸ h f.key found hfound
    | none =>
      obtain ⟨_, _, hcompile⟩ := (CacheFile.outcome_eq_ok_iff hfound).mp houtcome
      exact CompiledList.rules_ne_nil_of_compile hcompile
  · have hne : ∀ s ∈ l.sources, s.key ≠ key := fun s hs heq => hkey ⟨s, hs, heq⟩
    exact h key entry ((hl.get?_loadFiles_of_ne hfiles (.beginTogether 2) hne w).symm.trans hentry)

/-- Refreshing sources gives the lists that they make, if all of them make one. -/
theorem IsRegular.refreshAll_gives (hl : l.IsRegular) (network : Network) (now : Int)
    {sources : List Source} (hsources : sources ⊆ l.sources) (w : World Registry) :
    ((∃ lists, allLists (w.forEach (l.refresher network now).refresh sources).1 = .ok lists) ↔
      ∀ s ∈ sources, ∃ list, (l.refresher network now).Gives s list) ∧
    ∀ lists, allLists (w.forEach (l.refresher network now).refresh sources).1 = .ok lists →
      List.Forall₂ (fun s list => (l.refresher network now).Gives s list.list) sources lists := by
  induction sources generalizing w with
  | nil =>
    refine ⟨iff_of_true ⟨[], rfl⟩ (by simp), fun lists hlists => ?_⟩
    obtain rfl := Except.ok.inj hlists
    exact .nil
  | cons s sources ih =>
    have hs : s ∈ l.sources := hsources (List.mem_cons_self ..)
    obtain ⟨hiff, hgives⟩ := ih (fun x hx => hsources (List.mem_cons_of_mem s hx))
      ((l.refresher network now).refresh s w).2
    have hfirst := fun list => (l.refresher network now).refresh_ok_iff hl.registry
      (hl.valid s hs) list w
    simp only [World.forEach, allLists_cons, List.forall_mem_cons]
    refine ⟨?_, ?_⟩
    · rw [← hiff]
      constructor
      · rintro ⟨_, first, rest, hok, hrest, _⟩
        exact ⟨⟨first.list, (hfirst first.list).mp ⟨first.serial, hok⟩⟩, rest, hrest⟩
      · rintro ⟨⟨list, hlist⟩, rest, hrest⟩
        obtain ⟨serial, hok⟩ := (hfirst list).mpr hlist
        exact ⟨_, _, rest, hok, hrest, rfl⟩
    · rintro lists ⟨first, rest, hok, hrest, rfl⟩
      exact .cons ((hfirst first.list).mp ⟨first.serial, hok⟩) (hgives rest hrest)

theorem IsRegular.holdsRules_refreshAll (hl : l.IsRegular) (network : Network) (now : Int)
    {sources : List Source} (hsources : sources ⊆ l.sources) {w : World Registry}
    (h : w.registry.HoldsRules) :
    (w.forEach (l.refresher network now).refresh sources).2.registry.HoldsRules := by
  induction sources generalizing w with
  | nil => exact h
  | cons s sources ih =>
    have hvalid := hl.valid s (hsources (List.mem_cons_self ..))
    exact ih (fun x hx => hsources (List.mem_cons_of_mem s hx))
      ((l.refresher network now).holdsRules_refresh hl.registry hvalid h)

/-! ### Runs -/

variable (l) in
/-- The worlds that calls of a loader lead to from an empty registry, each call with a network and at
a time of its own. Between calls, the disk may change in any way. -/
inductive HasRun : World Registry → Prop
  | start (disk : Disk) (requests : List String) : HasRun { disk, registry := {}, requests }
  | disk {w : World Registry} (disk : Disk) (h : HasRun w) : HasRun { w with disk }
  | load {w : World Registry} (network : Network) (now : Int) (force : Bool) (h : HasRun w) :
      HasRun (l.load network now force w).2
  | clear {w : World Registry} (h : HasRun w) : HasRun (l.clear w).2

theorem IsRegular.holdsRules_load (hl : l.IsRegular) (network : Network) (now : Int) (force : Bool)
    {w : World Registry} (h : w.registry.HoldsRules) :
    (l.load network now force w).2.registry.HoldsRules := by
  have hloaded : ∀ {files}, List.Forall₂ (l.IsFreshFile w.disk now) l.sources files →
      (l.loadFiles files w).2.registry.HoldsRules :=
    fun hfresh => hl.holdsRules_loadFiles (isFileOf_of_isFreshFile hfresh) h
  rcases l.load_cases network now force w with
    ⟨_, files, hfresh, _, hload⟩ | ⟨hload, _⟩ | ⟨_, files, hfresh, _, hload⟩
  · rw [hload]
    exact hloaded hfresh
  · rw [hload]
    exact hl.holdsRules_refreshAll network now (fun _ hs => hs) h
  · rw [hload]
    exact hl.holdsRules_refreshAll network now (fun _ hs => hs) (hloaded hfresh)

theorem IsRegular.holdsRules_clear (hl : l.IsRegular) {w : World Registry}
    (h : w.registry.HoldsRules) : (l.clear w).2.registry.HoldsRules :=
  fun key entry hentry => h key entry ((hl.clear_spec w).2 key entry hentry)

/-- After any calls of a loader, all lists in its registry have rules. -/
theorem holdsRules_of_hasRun (hl : l.IsRegular) {w : World Registry} (h : l.HasRun w) :
    w.registry.HoldsRules := by
  induction h with
  | start disk requests =>
    intro key entry hentry
    cases hentry
  | disk _ _ ih => exact ih
  | load network now force _ ih => exact hl.holdsRules_load network now force ih
  | clear _ ih => exact hl.holdsRules_clear ih

/-! ### Loads -/

/-- A load that comes from the network gives the lists that the sources make, if all of them make
one. -/
theorem IsRegular.refreshSources_gives (hl : l.IsRegular) (network : Network) (now : Int)
    (w : World Registry) :
    ((∃ lists, (l.refreshSources network now w).1 = .ok lists) ↔
      ∀ s ∈ l.sources, ∃ list, (l.refresher network now).Gives s list) ∧
    ∀ lists, (l.refreshSources network now w).1 = .ok lists →
      List.Forall₂ (fun s list => (l.refresher network now).Gives s list.list) l.sources lists :=
  hl.refreshAll_gives network now (fun _ hs => hs) w

/-- A load gives lists of its sources. -/
theorem IsRegular.isListOf_of_load (hl : l.IsRegular) {network : Network} {now : Int} {force : Bool}
    {w : World Registry} (h : w.registry.HoldsRules) {lists : List RegisteredList}
    (hlists : (l.load network now force w).1 = .ok lists) :
    List.Forall₂ IsListOf l.sources lists := by
  have hrefreshed : ∀ w', (l.refreshSources network now w').1 = .ok lists →
      List.Forall₂ IsListOf l.sources lists := fun w' hok =>
    ((hl.refreshSources_gives network now w').2 lists hok).imp fun _ _ => isListOf_of_gives
  rcases l.load_cases network now force w with
    ⟨_, files, hfresh, _, hload⟩ | ⟨hload, _⟩ | ⟨_, files, _, _, hload⟩
  · have hfiles := isFileOf_of_isFreshFile hfresh
    rw [hload] at hlists
    exact (hl.registered_loadFiles hfiles (.beginTogether 2) hlists).imp fun s list hlist =>
      isListOf_of_registered (hl.holdsRules_loadFiles hfiles h) hlist
  · rw [hload] at hlists
    exact hrefreshed _ hlists
  · rw [hload] at hlists
    exact hrefreshed _ hlists

/-- Where a load that may not use the cache succeeds, so does one that may. -/
theorem IsRegular.load_of_load_force (hl : l.IsRegular) {network : Network} {now : Int}
    {w : World Registry} (h : ∃ lists, (l.load network now true w).1 = .ok lists) :
    ∃ lists, (l.load network now false w).1 = .ok lists := by
  have hall : ∀ s ∈ l.sources, ∃ list, (l.refresher network now).Gives s list :=
    (hl.refreshSources_gives network now w).1.mp h
  rcases l.load_cases network now false w with
    ⟨_, files, _, hlists, hload⟩ | ⟨hload, _⟩ | ⟨_, files, _, _, hload⟩
  · rw [hload]
    exact hlists
  · rw [hload]
    exact (hl.refreshSources_gives network now w).1.mpr hall
  · rw [hload]
    exact (hl.refreshSources_gives network now _).1.mpr hall

/-- After any calls of a loader, a load gives one list for each source in their order, with the key
of its source and with a rule, or that some were not found. From the network it gives lists exactly
when every source makes one, and then these; and a load that may use the cache succeeds whenever one
that may not would. -/
theorem load_follows_sources [UrlChecker] (hmemory : l.builder.registry = some .memory)
    (hmade : ∀ s ∈ l.sources, Source.make s.identifier s.location = .ok s)
    (hsources : Source.checkAll l.sources = .ok ()) {w : World Registry} (hrun : l.HasRun w)
    (network : Network) (now : Int) (force : Bool) :
    ((∃ lists, (l.load network now force w).1 = .ok lists ∧
        List.Forall₂ (fun s list => list.list.identifier = s.key ∧ list.list.rules ≠ [])
          l.sources lists) ∨
      (l.load network now force w).1 = .error .notFound) ∧
    (force = true ∨ (l.load network now force w).2.requests ≠ w.requests →
      ((∃ lists, (l.load network now force w).1 = .ok lists) ↔
        ∀ s ∈ l.sources, ∃ list, (l.refresher network now).Gives s list) ∧
      ∀ lists, (l.load network now force w).1 = .ok lists →
        List.Forall₂ (fun s list => (l.refresher network now).Gives s list.list)
          l.sources lists) ∧
    ((∃ lists, (l.load network now true w).1 = .ok lists) →
      ∃ lists, (l.load network now false w).1 = .ok lists) := by
  have hl := isRegular_of_make hmemory hmade hsources
  have hholds := holdsRules_of_hasRun hl hrun
  refine ⟨?_, fun hnetwork => ?_, hl.load_of_load_force⟩
  · cases hload : (l.load network now force w).1 with
    | ok lists => exact .inl ⟨lists, rfl, hl.isListOf_of_load hholds hload⟩
    | error e => exact .inr (by rw [eq_notFound_of_load hload])
  · obtain ⟨w', hload⟩ := load_eq_refreshSources hnetwork
    rw [hload]
    exact hl.refreshSources_gives network now w'

end Loader

end AnyReader

namespace Loader

/-- A disk with a row of wildcards in the files of both lists. -/
def wildcardFiles (n : Nat) : Disk where
  items := [
    ([.text "lists"], .directory),
    ([.text "lists", .text "a.json"], .file (.bytes (.text (encodedWildcards n))) 0),
    ([.text "lists", .text "b.json"], .file (.bytes (.text (encodedWildcards n))) 0)]

/-- The world after two lists have been loaded from the network, and been cleared, and files have come
from elsewhere. -/
def called : World Registry :=
  { (pair.clear (pair.load (wildcards 2) 0 true { disk := {}, registry := {} }).2).2 with
    disk := wildcardFiles 2 }

theorem hasRun_called : pair.HasRun called :=
  .disk (wildcardFiles 2) (.clear (.load (wildcards 2) 0 true (.start {} [])))

/-- Without a network, rows of wildcards are had from their files. -/
theorem load_called :
    ∃ lists, (pair.load (fun _ => .error .notFound) 0 false called).1 = .ok lists ∧
      (pair.load (fun _ => .error .notFound) 0 false called).2.requests = called.requests := by
  have hdisk : called.disk = wildcardFiles 2 := rfl
  generalize called = w at hdisk ⊢
  have hpair : pair.IsRegular := ⟨rfl, by decide, by decide⟩
  have hfresh : List.Forall₂ (pair.IsFreshFile w.disk 0) pair.sources
      [⟨"a", "lists/a.json", 0⟩, ⟨"b", "lists/b.json", 0⟩] := by
    rw [hdisk]
    exact .cons ⟨⟨rfl, by decide⟩, rfl, by decide⟩ (.cons ⟨⟨rfl, by decide⟩, rfl, by decide⟩ .nil)
  have hgives : ∀ f ∈ [(⟨"a", "lists/a.json", 0⟩ : CacheFile), ⟨"b", "lists/b.json", 0⟩],
      ∃ list, f.outcome w = .ok list := by
    intro f hf
    have hread : w.disk.readText (.text f.path) = .ok (encodedWildcards 2) := by
      rw [hdisk]
      rcases List.mem_pair.mp hf with rfl | rfl <;> rfl
    cases hfound : w.registry.get? f.key with
    | some entry => exact ⟨entry.list, CacheFile.outcome_of_registered hfound⟩
    | none =>
      obtain ⟨list, hlist⟩ := (Filter.compile_stars_iff (n := 2) (by decide) f.key).mpr (by decide)
      exact ⟨list, (CacheFile.outcome_eq_ok_iff hfound).mpr ⟨_, hread, hlist⟩⟩
  obtain ⟨lists, hlists⟩ := (hpair.exists_loadFiles_iff (isFileOf_of_isFreshFile hfresh)
    (.beginTogether 2) w).mpr hgives
  have hload := pair.loadBy_eq_fromFiles pair.loadFiles
    (pair.refreshSources (fun _ => .error .notFound) 0) hfresh hlists
  rw [load, hload]
  exact ⟨lists, hlists, (pair.loadFiles_frame _ w).2⟩

/-- After some calls, two rows of wildcards are had from the network and, while there is none, from
the cache, but not when the cache may not be used. -/
theorem load_follows_sources_of_wildcards :
    pair.builder.registry = some .memory ∧
      (∀ s ∈ pair.sources, Source.make s.identifier s.location = .ok s) ∧
      Source.checkAll pair.sources = .ok () ∧ pair.HasRun called ∧
      (∃ lists, (pair.load (wildcards 2) 0 true called).1 = .ok lists ∧
        List.Forall₂ (fun s list => (pair.refresher (wildcards 2) 0).Gives s list.list)
          pair.sources lists) ∧
      (∃ lists, (pair.load (fun _ => .error .notFound) 0 false called).1 = .ok lists ∧
        (pair.load (fun _ => .error .notFound) 0 false called).2.requests = called.requests ∧
        List.Forall₂ (fun s list => list.list.identifier = s.key ∧ list.list.rules ≠ [])
          pair.sources lists) ∧
      (pair.load (fun _ => .error .notFound) 0 true called).1 = .error .notFound := by
  have hmade : ∀ s ∈ pair.sources, Source.make s.identifier s.location = .ok s := by
    intro s hs
    rcases List.mem_pair.mp hs with rfl | rfl <;> decide +kernel
  have hsources : Source.checkAll pair.sources = .ok () := by decide
  have hgives : ∀ s ∈ pair.sources, ∃ list, (pair.refresher (wildcards 2) 0).Gives s list := by
    intro s hs
    obtain ⟨list, hlist⟩ := (Filter.compile_stars_iff (n := 2) (by decide) s.key).mpr (by decide)
    exact ⟨list, Refresher.gives_iff.mpr ⟨_, encoded?_wildcards (by decide) s, hlist⟩⟩
  have hload := load_follows_sources rfl hmade hsources hasRun_called
  refine ⟨rfl, hmade, hsources, hasRun_called, ?_, ?_, ?_⟩
  · obtain ⟨hiff, hlists⟩ := (hload (wildcards 2) 0 true).2.1 (.inl rfl)
    obtain ⟨lists, hok⟩ := hiff.mpr hgives
    exact ⟨lists, hok, hlists lists hok⟩
  · obtain ⟨lists, hok, hquiet⟩ := load_called
    rcases (hload (fun _ => .error .notFound) 0 false).1 with ⟨lists', hok', hgiven⟩ | herror
    · exact ⟨lists', hok', hquiet, hgiven⟩
    · cases hok.symm.trans herror
  · obtain ⟨hlists, hnetwork, _⟩ := hload (fun _ => .error .notFound) 0 true
    refine hlists.resolve_left ?_
    rintro ⟨lists, hok, _⟩
    obtain ⟨_, _, _, hfetch, _⟩ :=
      (hnetwork (.inl rfl)).1.mp ⟨lists, hok⟩ ⟨"a", "https://a.test/"⟩ (by simp [pair])
    cases hfetch

end Loader

end ContentBlocker
