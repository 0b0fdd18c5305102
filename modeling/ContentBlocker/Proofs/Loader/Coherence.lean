import ContentBlocker.Proofs.Loader.Files

/-!
# Files and lists of the sources

A refresh writes the file of a list before it compiles the list, so file and registry are changed
one after the other, and the second step may fail. Whatever calls of a loader follow each other,
both are given by the texts that have been written for a source (`Loader.Agrees`): the file holds
the newest one, and the registry has the compilation of the newest one that compiles.

That all sources agree with their texts (`Loader.Coherent`) is kept by every step of a load and by
clearing, and so holds after every run (`Loader.Coherent.of_reaches`). What a refresh may do is said
once, by `Refresher.refresh_eq_of_none` and `Refresher.refresh_eq_of_some`.
-/

namespace ContentBlocker

/-! ### Refreshing a source -/

namespace Refresher

variable {σ : Type} (r : Refresher σ)

/-- The encoded list that a source gives, if it can be fetched and translated. -/
def encoded? (s : Source) : Option String :=
  match Filter.fetch r.network s.location with
  | .ok lines => (r.builder.translate lines).toOption
  | .error _ => none

theorem encoded?_eq_some_iff {s : Source} {encoded : String} :
    r.encoded? s = some encoded ↔ ∃ lines, Filter.fetch r.network s.location = .ok lines ∧
      r.builder.translate lines = .ok encoded := by
  unfold encoded?
  cases Filter.fetch r.network s.location with
  | error e => simp
  | ok lines => cases htranslate : r.builder.translate lines <;> simp [htranslate, Except.toOption]

/-- Whether every list that is refreshed can be written to the cache. -/
def WritesAll : List Source → Disk → Prop
  | [], _ => True
  | s :: rest, d =>
    match r.encoded? s with
    | none => WritesAll rest d
    | some encoded =>
      (∃ path, (r.cache.write d r.now s.identifier encoded).1 = .ok path) ∧
        WritesAll rest (r.cache.write d r.now s.identifier encoded).2

/-- A source that gives no list leaves nothing but its request. -/
theorem refresh_eq_of_none {s : Source} (h : r.encoded? s = none) (w : World σ) :
    ∃ e, r.refresh s w = (.error e, { w with requests := s.location :: w.requests }) := by
  unfold encoded? at h
  cases hfetch : Filter.fetch r.network s.location with
  | error e => exact ⟨e, by simp [refresh, steps, step, stages, fetch, hfetch, Progress.result]⟩
  | ok lines =>
    rw [hfetch] at h
    cases htranslate : r.builder.translate lines with
    | error e =>
      refine ⟨e, ?_⟩
      simp [refresh, steps, step, stages, fetch, translate, hfetch, htranslate, Progress.result]
    | ok encoded => simp [htranslate, Except.toOption] at h

/-- A source that gives a list has it written, and then compiled. -/
theorem refresh_eq_of_some {s : Source} {encoded : String} (h : r.encoded? s = some encoded)
    (w : World σ) :
    r.refresh s w = ((r.builder.compile s.identifier encoded w.registry).1,
      { disk := (r.cache.write w.disk r.now s.identifier encoded).2
        registry := (r.builder.compile s.identifier encoded w.registry).2
        requests := s.location :: w.requests }) := by
  obtain ⟨lines, hfetch, htranslate⟩ := r.encoded?_eq_some_iff.mp h
  simp [refresh, steps, step, stages, fetch, translate, write, compile, hfetch, htranslate,
    World.onDisk, World.onRegistry, Progress.result]

theorem refresh_of_none {s : Source} (h : r.encoded? s = none) (w : World σ) :
    (r.refresh s w).2.disk = w.disk ∧ (r.refresh s w).2.registry = w.registry := by
  obtain ⟨e, hrefresh⟩ := r.refresh_eq_of_none h w
  rw [hrefresh]
  exact ⟨rfl, rfl⟩

theorem refresh_of_some {s : Source} {encoded : String} (h : r.encoded? s = some encoded)
    (w : World σ) :
    (r.refresh s w).2.disk = (r.cache.write w.disk r.now s.identifier encoded).2 ∧
      (r.refresh s w).2.registry = (r.builder.compile s.identifier encoded w.registry).2 := by
  rw [r.refresh_eq_of_some h w]
  exact ⟨rfl, rfl⟩

end Refresher

variable [FilterReader]

namespace Loader

/-! ### The invariant -/

/-- The compilation of the newest text that compiles, the texts given newest first. -/
def newest? (key : String) (texts : List String) : Option CompiledList :=
  texts.findSome? fun text => (CompiledList.compile key text).toOption

theorem newest?_cons_of_ok {key text : String} {list : CompiledList}
    (h : CompiledList.compile key text = .ok list) (texts : List String) :
    newest? key (text :: texts) = some list := by
  unfold newest?
  rw [List.findSome?_cons, h]
  rfl

theorem newest?_cons_of_error {key text : String} {e : RegistryError}
    (h : CompiledList.compile key text = .error e) (texts : List String) :
    newest? key (text :: texts) = newest? key texts := by
  unfold newest?
  rw [List.findSome?_cons, h]
  rfl

theorem eq_of_newest? {key text : String} {list compiled : CompiledList} {texts : List String}
    (hhead : texts.head? = some text) (hnewest : newest? key texts = some list)
    (h : CompiledList.compile key text = .ok compiled) : compiled = list := by
  obtain ⟨rest, rfl⟩ := List.head?_eq_some_iff.mp hhead
  rw [newest?_cons_of_ok h] at hnewest
  exact Option.some.inj hnewest

variable (l : Loader Registry)

/-- Whether file and list of a source are those of the texts that have been written for it, newest
first: the file, if there is one, holds the newest text, and the list, if one is registered, is the
compilation of the newest text that compiles. -/
structure Agrees (w : World Registry) (s : Source) (texts : List String) : Prop where
  file : ∀ place content modified,
    w.disk.place? (.text (l.cache.path s.identifier)) = some place →
    w.disk.get? place = some (.file content modified) →
    ∃ text, texts.head? = some text ∧ content = .bytes (.text text)
  list : ∀ entry, w.registry.get? s.key = some entry → newest? s.key texts = some entry.list

/-- There are no links, and every source agrees with the texts that have been written for it. -/
structure Coherent (w : World Registry) (past : Source → List String) : Prop where
  noLinks : w.disk.NoLinks
  agrees : ∀ s ∈ l.sources, l.Agrees w s (past s)

variable {l} {w w' : World Registry} {past : Source → List String}

/-- A source stays in agreement as long as nothing is registered for it and its file is not
changed. -/
theorem Agrees.mono {s : Source} {texts : List String} (h : l.Agrees w s texts)
    (hstart : w'.disk.start = w.disk.start)
    (hregistry : ∀ entry, w'.registry.get? s.key = some entry →
      w.registry.get? s.key = some entry)
    (hfile : ∀ place content modified,
      w.disk.place? (.text (l.cache.path s.identifier)) = some place →
      w'.disk.get? place = some (.file content modified) →
      w.disk.get? place = some (.file content modified)) : l.Agrees w' s texts := by
  refine ⟨fun place content modified hplace hget => ?_, fun entry hentry => ?_⟩
  · rw [Disk.place?_congr hstart] at hplace
    exact h.file place content modified hplace (hfile place content modified hplace hget)
  · exact h.list entry (hregistry entry hentry)

/-- Removing files and lists keeps all sources in agreement. -/
theorem Coherent.of_within (h : l.Coherent w past) (hdisk : w'.disk.Within w.disk)
    (hregistry : ∀ key entry, w'.registry.get? key = some entry →
      w.registry.get? key = some entry) : l.Coherent w' past := by
  refine ⟨hdisk.noLinks h.noLinks, fun s hs => ?_⟩
  refine (h.agrees s hs).mono hdisk.1 (hregistry s.key) fun place content modified _ hget => ?_
  rcases hdisk.2 place _ hget with hdir | hget
  · simp at hdir
  · exact hget

/-- Two sources never share a file. -/
theorem IsRegular.place_ne (hl : l.IsRegular) {s s' : Source} (hs : s ∈ l.sources)
    (hs' : s' ∈ l.sources) (hne : s.key ≠ s'.key) {d : Disk} {place place' : Place}
    (h : d.place? (.text (l.cache.path s.identifier)) = some place)
    (h' : d.place? (.text (l.cache.path s'.identifier)) = some place') : place ≠ place' := by
  have hplace := l.cache.place?_path (slash_not_mem_of_isValid (hl.valid s hs)) h
  have hplace' := l.cache.place?_path (slash_not_mem_of_isValid (hl.valid s' hs')) h'
  rintro rfl
  rw [hplace'] at hplace
  have hlast := (List.append_inj' hplace rfl).2
  have htext : s'.identifier ++ Cache.extension = s.identifier ++ Cache.extension := by
    simpa using hlast
  have hid : s'.identifier = s.identifier := by
    simpa using htext
  exact hne (by unfold Source.key; rw [hid])

/-! ### What each step preserves -/

/-- Compiling a list for one source registers nothing for another. -/
theorem IsRegular.get?_compile (hl : l.IsRegular) {s s' : Source} (hs : s ∈ l.sources)
    (hne : s'.key ≠ s.key) (encoded : String) (registry : Registry) :
    (l.builder.compile s.identifier encoded registry).2.get? s'.key = registry.get? s'.key :=
  ListBuilder.get?_compile_of_ne hl.registry (hl.valid s hs) hne encoded registry

/-- Compiling the text in the file of a source brings the source into agreement. If the text does
not compile, the list from before stays, which is the one of the texts before. -/
theorem IsRegular.agrees_of_compile (hl : l.IsRegular) {s : Source} (hs : s ∈ l.sources)
    {encoded : String} {texts : List String} {registry : Registry}
    (hregistry : w'.registry = (l.builder.compile s.identifier encoded registry).2)
    (hbefore : ∀ entry, registry.get? s.key = some entry → newest? s.key texts = some entry.list)
    (hfile : ∀ place content modified,
      w'.disk.place? (.text (l.cache.path s.identifier)) = some place →
      w'.disk.get? place = some (.file content modified) → content = .bytes (.text encoded)) :
    l.Agrees w' s (encoded :: texts) := by
  refine ⟨fun place content modified hplace hget => ?_, fun entry hentry => ?_⟩
  · exact ⟨encoded, rfl, hfile place content modified hplace hget⟩
  · rw [hregistry] at hentry
    -- either the new text compiles, or nothing changes and it does not count
    rcases ListBuilder.compile_memory hl.registry (hl.valid s hs) encoded registry with
      ⟨list, hlist, hcompile⟩ | ⟨e, herror, hcompile⟩
    · have hkey : list.identifier = s.key := CompiledList.identifier_of_compile hlist
      rw [hcompile, Registry.get?_insert, if_pos hkey.symm] at hentry
      obtain rfl := Option.some.inj hentry
      exact newest?_cons_of_ok hlist texts
    · rw [hcompile] at hentry
      exact (newest?_cons_of_error herror texts).trans (hbefore entry hentry)

/-- The texts of the sources after some of them have been refreshed. -/
def pastAfter (r : Refresher Registry) (sources : List Source) (past : Source → List String)
    (s : Source) : List String :=
  if s ∈ sources then (r.encoded? s).toList ++ past s else past s

theorem Coherent.congr (h : l.Coherent w past) {past' : Source → List String}
    (hsame : ∀ s ∈ l.sources, past' s = past s) : l.Coherent w past' :=
  ⟨h.noLinks, fun s hs => hsame s hs ▸ h.agrees s hs⟩

theorem Coherent.refresh_of_none (h : l.Coherent w past) {network : Network} {now : Int}
    {s : Source} (hnone : (l.refresher network now).encoded? s = none) :
    l.Coherent ((l.refresher network now).refresh s w).2
      (pastAfter (l.refresher network now) [s] past) := by
  obtain ⟨hdisk, hregistry⟩ := (l.refresher network now).refresh_of_none hnone w
  have hsame : ∀ s' ∈ l.sources, pastAfter (l.refresher network now) [s] past s' = past s' := by
    intro s' _
    unfold pastAfter
    split
    · rename_i hmem
      obtain rfl := List.mem_singleton.mp hmem
      rw [hnone]
      rfl
    · rfl
  refine (h.of_within (hdisk ▸ Disk.Within.refl _) fun key entry hentry => ?_).congr hsame
  exact hregistry ▸ hentry

/-- Writing and compiling a list for one source leaves the others in agreement: they have files and
keys of their own. -/
theorem IsRegular.agrees_of_other (hl : l.IsRegular) (hlinks : w.disk.NoLinks) {now : Int}
    {s s' : Source} {encoded path : String} {texts : List String} (hs : s ∈ l.sources)
    (hs' : s' ∈ l.sources) (hkey : s'.key ≠ s.key) (h : l.Agrees w s' texts)
    (hwrite : l.cache.write w.disk now s.identifier encoded = (.ok path, w'.disk))
    (hregistry : w'.registry = (l.builder.compile s.identifier encoded w.registry).2) :
    l.Agrees w' s' texts := by
  obtain ⟨place, hplace, hstart, _, hother⟩ := l.cache.write_spec hlinks hwrite
  refine h.mono hstart ?_ ?_
  · intro entry hentry
    rw [hregistry] at hentry
    rwa [← hl.get?_compile hs hkey encoded]
  · intro spelled content modified hspelled hget
    have hne := hl.place_ne hs' hs hkey hspelled hplace
    rcases hother spelled _ hne hget with hdir | hget
    · cases hdir
    · exact hget

theorem Coherent.refresh (hl : l.IsRegular) (h : l.Coherent w past) {network : Network} {now : Int}
    {s : Source} (hs : s ∈ l.sources)
    (hwrite : ∀ encoded, (l.refresher network now).encoded? s = some encoded →
      ∃ path, (l.cache.write w.disk now s.identifier encoded).1 = .ok path) :
    l.Coherent ((l.refresher network now).refresh s w).2
      (pastAfter (l.refresher network now) [s] past) := by
  cases hencoded : (l.refresher network now).encoded? s with
  | none => exact h.refresh_of_none hencoded
  | some encoded =>
    obtain ⟨hdisk, hregistry⟩ := (l.refresher network now).refresh_of_some hencoded w
    obtain ⟨path, hpath⟩ := hwrite encoded hencoded
    have hwritten : l.cache.write w.disk now s.identifier encoded =
        (.ok path, ((l.refresher network now).refresh s w).2.disk) := Prod.ext hpath hdisk.symm
    refine ⟨l.cache.noLinks_of_write h.noLinks hwritten, fun s' hs' => ?_⟩
    by_cases hkey : s'.key = s.key
    · obtain rfl := hl.eq_of_key_eq hs' hs hkey
      have hpast : pastAfter (l.refresher network now) [s'] past s' = encoded :: past s' := by
        simp [pastAfter, hencoded]
      obtain ⟨place, hplace, hstart, hget, _⟩ := l.cache.write_spec h.noLinks hwritten
      rw [hpast]
      refine hl.agrees_of_compile hs hregistry (h.agrees s' hs).list ?_
      intro spelled content modified hspelled hfound
      rw [Disk.place?_congr hstart, hplace] at hspelled
      obtain rfl := Option.some.inj hspelled
      rw [hget] at hfound
      cases hfound
      rfl
    · have hpast : pastAfter (l.refresher network now) [s] past s' = past s' := by
        have hne : s' ≠ s := fun heq => hkey (heq ▸ rfl)
        simp [pastAfter, hne]
      rw [hpast]
      exact hl.agrees_of_other h.noLinks hs hs' hkey (h.agrees s' hs') hwritten hregistry

theorem Coherent.refreshAll (hl : l.IsRegular) {network : Network} {now : Int}
    {sources : List Source} (hsources : sources ⊆ l.sources) (hnodup : sources.Nodup)
    (h : l.Coherent w past) (hwrites : (l.refresher network now).WritesAll sources w.disk) :
    l.Coherent (w.forEach (l.refresher network now).refresh sources).2
      (pastAfter (l.refresher network now) sources past) := by
  induction sources generalizing w past with
  | nil => exact h.congr fun s _ => by simp [pastAfter]
  | cons s sources ih =>
    have hs : s ∈ l.sources := hsources (List.mem_cons_self ..)
    have hrest : sources ⊆ l.sources := fun x hx => hsources (List.mem_cons_of_mem s hx)
    obtain ⟨hfresh, hnodup⟩ := List.nodup_cons.mp hnodup
    have hwrite : (∀ encoded, (l.refresher network now).encoded? s = some encoded →
          ∃ path, (l.cache.write w.disk now s.identifier encoded).1 = .ok path) ∧
        (l.refresher network now).WritesAll sources
          ((l.refresher network now).refresh s w).2.disk := by
      rw [Refresher.WritesAll] at hwrites
      cases hencoded : (l.refresher network now).encoded? s with
      | none =>
        rw [hencoded] at hwrites
        rw [((l.refresher network now).refresh_of_none hencoded w).1]
        exact ⟨fun encoded hsome => (by cases hsome), hwrites⟩
      | some encoded =>
        rw [hencoded] at hwrites
        rw [((l.refresher network now).refresh_of_some hencoded w).1]
        refine ⟨fun encoded' hsome => ?_, hwrites.2⟩
        obtain rfl := Option.some.inj hsome
        exact hwrites.1
    -- `s` is not among the sources that are left, so its texts do not change any more
    refine (ih hrest hnodup (h.refresh hl hs hwrite.1) hwrite.2).congr fun s' _ => ?_
    unfold pastAfter
    by_cases heq : s' = s
    · subst heq
      simp [hfresh]
    · simp [heq]

variable (l) in
/-- Whether the file of a source holds the newest of the texts that have been written for it, and a
list is the compilation of the newest of them that compiles, which is the one in the file if that
compiles. -/
def Delivers (d : Disk) (past : Source → List String) (s : Source) (list : CompiledList) : Prop :=
  ∃ text modified, d.readFile (.text (l.cache.path s.identifier)) = .ok (.text text, modified) ∧
    (past s).head? = some text ∧ newest? s.key (past s) = some list ∧
    ∀ compiled, CompiledList.compile s.key text = .ok compiled → compiled = list

/-- What comes out of the file of a source is the compilation of the newest of its texts that
compiles. -/
theorem Agrees.newest?_of_outcome {s : Source} {texts : List String} {f : CacheFile}
    {list : CompiledList} (h : l.Agrees w s texts) (hlinks : w.disk.NoLinks) (hf : l.IsFileOf s f)
    (houtcome : f.outcome w = .ok list) : newest? s.key texts = some list := by
  cases hfound : w.registry.get? f.key with
  | some entry =>
    rw [CacheFile.outcome_of_registered hfound] at houtcome
    obtain rfl := Except.ok.inj houtcome
    exact h.list entry (hf.key_eq ▸ hfound)
  | none =>
    obtain ⟨encoded, hread, hcompile⟩ := (CacheFile.outcome_eq_ok_iff hfound).mp houtcome
    rw [hf.path] at hread
    rw [hf.key_eq] at hcompile
    obtain ⟨modified, hfile⟩ := Disk.readText_iff.mp hread
    obtain ⟨place, hplace, hget⟩ := Disk.readFile_spec hlinks hfile
    obtain ⟨text, hhead, heq⟩ := h.file place _ modified hplace hget
    obtain rfl : encoded = text := by simpa using heq
    obtain ⟨rest, rfl⟩ := List.head?_eq_some_iff.mp hhead
    exact newest?_cons_of_ok hcompile rest

/-- The list that is registered for a source is one that it delivers while it has a file that can be
opened. -/
theorem Agrees.delivers {s : Source} {entry : RegisteredList} (h : l.Agrees w s (past s))
    (hlinks : w.disk.NoLinks) {now : Int} (hfresh : l.HasFreshFile w.disk now s)
    (hentry : w.registry.get? s.key = some entry) : l.Delivers w.disk past s entry.list := by
  obtain ⟨modified, hopened, _⟩ := l.hasFreshFile_iff.mp hfresh
  obtain ⟨place, content, hfind, hget⟩ := Disk.modified_iff.mp hopened
  obtain ⟨spelled, hplace, htarget | ⟨htarget, _⟩⟩ := Disk.find_spec hlinks hfind
  · cases htarget
    obtain ⟨text, hhead, rfl⟩ := h.file place content modified hplace hget
    have hnewest := h.list entry hentry
    exact ⟨text, modified, Disk.readFile_iff.mpr ⟨place, hfind, hget⟩, hhead, hnewest,
      fun _ hcompile => eq_of_newest? hhead hnewest hcompile⟩
  · cases htarget

/-- Loading the files of the sources keeps all sources in agreement. -/
theorem Coherent.loadFiles (hl : l.IsRegular) (h : l.Coherent w past) {files : List CacheFile}
    (hfiles : List.Forall₂ l.IsFileOf l.sources files) :
    l.Coherent (l.loadFiles files w).2 past := by
  have hdisk := (l.loadFiles_frame files w).1
  refine ⟨hdisk ▸ h.noLinks, fun s hs => ⟨hdisk ▸ (h.agrees s hs).file, fun entry hentry => ?_⟩⟩
  obtain ⟨f, hf, hfile⟩ := exists_of_forall₂ hfiles hs
  have houtcome : f.outcome w = .ok entry.list :=
    hl.outcome_of_get?_loadFiles hfiles (.beginTogether 2) hf (hfile.key_eq ▸ hentry)
  exact (h.agrees s hs).newest?_of_outcome h.noLinks hfile houtcome

/-! ### Runs -/

variable (l) in
/-- The worlds that calls of a loader lead to from a start, each call with a network and at a time
of its own, together with the texts that have been written for each source by then, newest first. A
load that makes requests has to write every list that it refreshes to the cache. -/
inductive Reaches (start : World Registry) : World Registry → (Source → List String) → Prop
  | start : Reaches start start fun _ => []
  | quiet {w : World Registry} {past : Source → List String} (network : Network) (now : Int)
      (force : Bool) (h : Reaches start w past)
      (hquiet : (l.load network now force w).2.requests = w.requests) :
      Reaches start (l.load network now force w).2 past
  | refresh {w : World Registry} {past : Source → List String} (network : Network) (now : Int)
      (force : Bool) (h : Reaches start w past)
      (hrequests : (l.load network now force w).2.requests ≠ w.requests)
      (hwrites : (l.refresher network now).WritesAll l.sources w.disk) :
      Reaches start (l.load network now force w).2
        fun s => ((l.refresher network now).encoded? s).toList ++ past s
  | clear {w : World Registry} {past : Source → List String} (h : Reaches start w past) :
      Reaches start (l.clear w).2 past

theorem Coherent.refreshSources (hl : l.IsRegular) (h : l.Coherent w past) {network : Network}
    {now : Int} (hwrites : (l.refresher network now).WritesAll l.sources w.disk) :
    l.Coherent (l.refreshSources network now w).2
      fun s => ((l.refresher network now).encoded? s).toList ++ past s := by
  refine (h.refreshAll hl (fun _ hs => hs) hl.nodup hwrites).congr fun s hs => ?_
  rw [pastAfter, if_pos hs]

theorem Coherent.load_of_quiet (hl : l.IsRegular) (h : l.Coherent w past) {network : Network}
    {now : Int} {force : Bool} (hquiet : (l.load network now force w).2.requests = w.requests) :
    l.Coherent (l.load network now force w).2 past := by
  obtain ⟨files, hfresh, hload⟩ := l.load_eq_loadFiles_of_quiet hquiet
  rw [hload]
  exact h.loadFiles hl (isFileOf_of_isFreshFile hfresh)

theorem Coherent.load_of_requests (hl : l.IsRegular) (h : l.Coherent w past) {network : Network}
    {now : Int} {force : Bool}
    (hrequests : (l.load network now force w).2.requests ≠ w.requests)
    (hwrites : (l.refresher network now).WritesAll l.sources w.disk) :
    l.Coherent (l.load network now force w).2
      fun s => ((l.refresher network now).encoded? s).toList ++ past s := by
  rcases l.load_cases network now force w with
    ⟨_, files, _, _, hload⟩ | ⟨hload, _⟩ | ⟨_, files, hfresh, _, hload⟩
  · exact absurd (hload ▸ (l.loadFiles_frame files w).2) hrequests
  · rw [hload]
    exact h.refreshSources hl hwrites
  · rw [hload]
    refine (h.loadFiles hl (isFileOf_of_isFreshFile hfresh)).refreshSources hl ?_
    rwa [(l.loadFiles_frame files w).1]

/-- Removing the lists of sources takes out what has their keys, and nothing else. -/
theorem forEach_remove_spec (hregistry : l.builder.registry = some .memory) {sources : List Source}
    (hvalid : ∀ s ∈ sources, Key.isValid s.key = true) {w w' : World Registry}
    (h : (w.forEach (fun s w => w.onRegistry (l.builder.remove s.identifier)) sources).2 = w') :
    w'.disk = w.disk ∧ w'.requests = w.requests ∧ ∀ key, w'.registry.get? key =
      if key ∈ sources.map (·.key) then none else w.registry.get? key := by
  induction sources generalizing w with
  | nil =>
    obtain rfl := h
    exact ⟨rfl, rfl, fun _ => rfl⟩
  | cons s sources ih =>
    obtain ⟨hdisk, hrequests, hregistered⟩ :=
      ih (fun x hx => hvalid x (List.mem_cons_of_mem s hx))
        (w := (w.onRegistry (l.builder.remove s.identifier)).2) h
    refine ⟨hdisk, hrequests, fun key => ?_⟩
    have hfirst : (w.onRegistry (l.builder.remove s.identifier)).2.registry =
        w.registry.erase s.key :=
      congrArg Prod.snd (ListBuilder.remove_memory hregistry (hvalid s (List.mem_cons_self ..)) _)
    rw [hregistered, hfirst, Registry.get?_erase, List.map_cons]
    by_cases hkey : key = s.key <;> simp [hkey]

/-- Clearing brings nothing new to the disk or the registry. -/
theorem IsRegular.clear_spec (hl : l.IsRegular) (w : World Registry) :
    (l.clear w).2.disk.Within w.disk ∧
      ∀ key entry, (l.clear w).2.registry.get? key = some entry →
        w.registry.get? key = some entry := by
  have hwithin := l.cache.clear_within w.disk
  unfold Loader.clear World.onDisk
  rcases hclear : l.cache.clear w.disk with ⟨e | count, d⟩
  · rw [hclear] at hwithin
    exact ⟨hwithin, fun _ _ hentry => hentry⟩
  · rw [hclear] at hwithin
    obtain ⟨hdisk, _, hregistry⟩ :=
      forEach_remove_spec hl.registry hl.valid (w := { w with disk := d }) rfl
    dsimp only
    refine ⟨?_, fun key entry hentry => ?_⟩
    · rw [hdisk]
      exact hwithin
    · rw [hregistry] at hentry
      split at hentry
      · cases hentry
      · exact hentry

theorem Coherent.clear (hl : l.IsRegular) (h : l.Coherent w past) :
    l.Coherent (l.clear w).2 past :=
  h.of_within (hl.clear_spec w).1 (hl.clear_spec w).2

theorem Coherent.of_reaches (hl : l.IsRegular) {start : World Registry}
    (h : l.Coherent start fun _ => []) (hreaches : l.Reaches start w past) : l.Coherent w past := by
  induction hreaches with
  | start => exact h
  | quiet network now force _ hquiet ih => exact ih.load_of_quiet hl hquiet
  | refresh network now force _ hrequests hwrites ih =>
    exact ih.load_of_requests hl hrequests hwrites
  | clear _ ih => exact ih.clear hl

variable (l) in
/-- Whether nothing stands where the files of the sources would. -/
def HasNoFiles (d : Disk) : Prop :=
  ∀ s ∈ l.sources, ∀ place, d.place? (.text (l.cache.path s.identifier)) = some place →
    d.get? place = none

/-- Where nothing is registered and no source has a file, all sources agree with no texts. -/
theorem coherent_of_empty (hlinks : w.disk.NoLinks) (hregistry : w.registry.lists = [])
    (hfiles : l.HasNoFiles w.disk) : l.Coherent w fun _ => [] := by
  refine ⟨hlinks, fun s hs => ⟨?_, ?_⟩⟩
  · intro place content modified hplace hget
    rw [hfiles s hs place hplace] at hget
    cases hget
  · intro entry hentry
    unfold Registry.get? at hentry
    rw [hregistry] at hentry
    cases hentry

end Loader

end ContentBlocker
