import ContentBlocker.Proofs.Disk.CacheFiles
import ContentBlocker.Proofs.Loader.Turns
import ContentBlocker.Proofs.Source.Keys

/-!
# Requests of a load

A load either makes no request at all or exactly one for each source (`load_requests`), in whatever
order files and sources take turns and whatever the network, the translator and the registry do. It
makes none exactly when every file is fresh and every file serves its list (`Loader.Serves`): the list
is found in the registry, or it is missing there and the file can be read and compiled. A refresh that
fails is not made again.

No source asks twice, because only its first stage makes a request (`Refresher.HasAsked`).
-/

namespace ContentBlocker

/-! ### Items in lists -/

section Forall₂

variable {α β γ : Type} {R : α → β → Prop} {S : α → γ → Prop} {T : β → γ → Prop} {as : List α}
  {bs : List β} {cs : List γ}

theorem exists_of_forall₂ (h : List.Forall₂ R as bs) {a : α} (ha : a ∈ as) : ∃ b ∈ bs, R a b := by
  induction h with
  | nil => cases ha
  | @cons first b _ bs hfirst _ ih =>
    rcases List.mem_cons.mp ha with rfl | ha
    · exact ⟨b, List.mem_cons_self .., hfirst⟩
    · obtain ⟨b', hmem, hb'⟩ := ih ha
      exact ⟨b', List.mem_cons_of_mem b hmem, hb'⟩

theorem forall₂_imp_of_mem {R' : α → β → Prop} (h : List.Forall₂ R as bs)
    (himp : ∀ a ∈ as, ∀ b, R a b → R' a b) : List.Forall₂ R' as bs :=
  ((List.forall₂_and_left _ _).mpr ⟨fun _ ha => ha, h⟩).imp fun a b ⟨ha, hab⟩ => himp a ha b hab

/-- What two lists have to do with the items of a third, they have to do with each other. -/
theorem forall₂_of_common (hR : List.Forall₂ R as bs) (hS : List.Forall₂ S as cs)
    (h : ∀ a b c, R a b → S a c → T b c) : List.Forall₂ T bs cs := by
  induction hR generalizing cs with
  | nil =>
    cases hS
    exact .nil
  | cons hab _ ih =>
    cases hS with
    | cons hac hS => exact .cons (h _ _ _ hab hac) (ih hS)

end Forall₂

/-! ### One item after the other -/

namespace World

variable {σ α β : Type}

/-- Where every single action makes one request, there is one for each item. -/
theorem forEach_requests {act : α → World σ → β × World σ} {location : α → String}
    (h : ∀ a w, (act a w).2.requests = location a :: w.requests) (as : List α) (w : World σ) :
    (w.forEach act as).2.requests = (as.map location).reverse ++ w.requests := by
  induction as generalizing w with
  | nil => rfl
  | cons a as ih =>
    have hrest := ih (act a w).2
    rw [h] at hrest
    simpa [forEach] using hrest

end World

namespace Refresher

variable {σ : Type} (r : Refresher σ) (s : Source)

/-- Only the first stage makes a request, and no stage leads back to it. -/
theorem step_requests {p : Progress} (hp : p ≠ .waiting) (w : World σ) :
    (r.step s p w).1 ≠ .waiting ∧ (r.step s p w).2.requests = w.requests := by
  cases p with
  | waiting => exact absurd rfl hp
  | fetched lines =>
    simp only [step, translate]
    split <;> exact ⟨by simp, trivial⟩
  | translated encoded => exact ⟨by simp [step, write], rfl⟩
  | written encoded => exact ⟨by simp [step, compile], rfl⟩
  | finished result => exact ⟨by simp [step], rfl⟩

theorem steps_requests {p : Progress} (hp : p ≠ .waiting) (n : Nat) (w : World σ) :
    (r.steps s n p w).2.requests = w.requests := by
  induction n generalizing p w with
  | zero => rfl
  | succ n ih =>
    obtain ⟨hnext, hsame⟩ := r.step_requests s hp w
    exact (ih hnext _).trans hsame

theorem fetch_requests (w : World σ) :
    (r.fetch s w).1 ≠ .waiting ∧ (r.fetch s w).2.requests = s.location :: w.requests := by
  unfold fetch
  split <;> exact ⟨by simp, rfl⟩

/-- Refreshing a source makes one request. -/
theorem refresh_requests (w : World σ) :
    (r.refresh s w).2.requests = s.location :: w.requests := by
  obtain ⟨hnext, hfetch⟩ := r.fetch_requests s w
  exact (r.steps_requests s hnext 3 _).trans hfetch

/-! ### Sources in turns -/

/-- Whether the requests since a start are those of some sources, last one first, and these are the
sources that have begun. -/
structure HasAsked (w : World σ) (st : Refreshing σ) (asked : List Source) : Prop where
  nodup : asked.Nodup
  mem : ∀ s, s ∈ asked ↔ st.progress s ≠ .waiting
  requests : st.world.requests = asked.map (·.location) ++ w.requests

variable {r} {w : World σ} {st : Refreshing σ} {asked : List Source}

theorem hasAsked_start (w : World σ) : HasAsked w (start w) [] where
  nodup := .nil
  mem _ := iff_of_false List.not_mem_nil (not_not_intro rfl)
  requests := rfl

/-- A turn makes a request if it is the first one of its source. -/
theorem HasAsked.turn (h : HasAsked w st asked) (s : Source) :
    ∃ asked', HasAsked w (r.pipeline.turn st s) asked' := by
  by_cases hs : st.progress s = .waiting
  -- the first turn, in which the source begins
  · have hfirst : (r.step s (st.progress s) st.world).1 ≠ .waiting ∧
        (r.step s (st.progress s) st.world).2.requests = s.location :: st.world.requests := by
      rw [hs]
      exact r.fetch_requests s st.world
    refine ⟨s :: asked, List.nodup_cons.mpr ⟨fun hmem => (h.mem s).mp hmem hs, h.nodup⟩,
      fun x => ?_, ?_⟩
    · rw [List.mem_cons, h.mem]
      by_cases hx : x = s
      · subst hx
        rw [r.pipeline.progress_turn_self]
        exact iff_of_true (.inl rfl) hfirst.1
      · rw [r.pipeline.progress_turn_of_ne hx, or_iff_right hx]
    · exact hfirst.2.trans (by rw [h.requests]; rfl)
  -- a later turn, which leaves those that have begun and their requests as they are
  · obtain ⟨hnext, hsame⟩ := r.step_requests s hs st.world
    refine ⟨asked, h.nodup, fun x => ?_, hsame.trans h.requests⟩
    rw [h.mem]
    by_cases hx : x = s
    · subst hx
      rw [r.pipeline.progress_turn_self]
      exact iff_of_true hs hnext
    · rw [r.pipeline.progress_turn_of_ne hx]

theorem exists_hasAsked_run (r : Refresher σ) (schedule : List Source) (w : World σ) :
    ∃ asked, HasAsked w (r.run schedule (start w)) asked :=
  r.pipeline.run_induction (motive := fun st => ∃ asked, HasAsked w st asked)
    (fun _ s _ ⟨_, hst⟩ => hst.turn s) (List.Subset.refl schedule) ⟨[], hasAsked_start w⟩

/-- Sources that take turns make one request each. -/
theorem requests_of_turns (r : Refresher σ) (turns : Turns Source stages) {sources : List Source}
    (hnodup : sources.Nodup) (w : World σ) :
    ∃ made, made.Perm (sources.map (·.location)) ∧
      (r.run (turns.order sources) (start w)).world.requests = made ++ w.requests := by
  obtain ⟨asked, h⟩ := r.exists_hasAsked_run (turns.order sources) w
  have hasked : ∀ s, s ∈ asked ↔ s ∈ sources := by
    intro s
    rw [h.mem]
    constructor
    · intro hbegun
      by_contra hs
      exact hbegun (r.pipeline.progress_run_of_not_mem (fun hmem => hs (turns.subset _ hmem)) _)
    · intro hs
      obtain ⟨result, hresult⟩ := r.hasFinished_of_turns turns sources w s hs
      rw [hresult]
      exact Progress.noConfusion
  exact ⟨_, ((List.perm_ext_iff_of_nodup h.nodup hnodup).mpr hasked).map _, h.requests⟩

end Refresher

@[simp]
theorem FileProgress.result_eq_ok_iff {p : FileProgress} {list : RegisteredList} :
    p.result = .ok list ↔ p = .finished (.ok list) := by
  cases p <;> simp [result]

@[simp]
theorem Progress.result_eq_ok_iff {p : Progress} {list : RegisteredList} :
    p.result = .ok list ↔ p = .finished (.ok list) := by
  cases p <;> simp [result]

namespace Loader

variable {σ : Type} (l : Loader σ)

/-! ### Lists from the cache -/

/-- Whether a file in the cache is the one of a source. -/
structure IsFileOf (s : Source) (f : CacheFile) : Prop where
  identifier : f.identifier = s.identifier
  path : f.path = l.cache.path s.identifier

/-- Whether a file is the one of a source, can be opened and is younger than the retention. -/
structure IsFreshFile (d : Disk) (now : Int) (s : Source) (f : CacheFile) : Prop where
  isFileOf : l.IsFileOf s f
  opened : d.modified (.text (l.cache.path s.identifier)) = .ok f.modified
  young : (now - f.modified).toNat < l.cache.retention

/-- Whether the file of a source can be opened and is younger than the retention. -/
def HasFreshFile (d : Disk) (now : Int) (s : Source) : Prop :=
  ∃ f, l.IsFreshFile d now s f

theorem freshFile?_eq_some_iff {d : Disk} {now : Int} {s : Source} {f : CacheFile} :
    l.cache.freshFile? d now s.identifier = some f ↔ l.IsFreshFile d now s f := by
  rw [Cache.freshFile?_eq_some_iff, Cache.file_eq_ok_iff]
  constructor
  · rintro ⟨⟨hid, hpath, hopened⟩, hyoung⟩
    exact ⟨⟨hid, hpath⟩, hopened, hyoung⟩
  · rintro ⟨⟨hid, hpath⟩, hopened, hyoung⟩
    exact ⟨⟨hid, hpath, hopened⟩, hyoung⟩

theorem hasFreshFile_iff {d : Disk} {now : Int} {s : Source} :
    l.HasFreshFile d now s ↔ ∃ modified,
      d.modified (.text (l.cache.path s.identifier)) = .ok modified ∧
        (now - modified).toNat < l.cache.retention := by
  constructor
  · rintro ⟨f, _, hopened, hyoung⟩
    exact ⟨f.modified, hopened, hyoung⟩
  · rintro ⟨modified, hopened, hyoung⟩
    exact ⟨⟨s.identifier, l.cache.path s.identifier, modified⟩, ⟨rfl, rfl⟩, hopened, hyoung⟩

/-- The files of sources are used if all of them are fresh. -/
theorem check_eq_some_iff {d : Disk} {now : Int} {sources : List Source} {files : List CacheFile} :
    l.cache.check d now (sources.map (·.identifier)) = some files ↔
      List.Forall₂ (l.IsFreshFile d now) sources files := by
  simp only [Cache.check_eq_some_iff, List.forall₂_map_left_iff, l.freshFile?_eq_some_iff]

theorem files_unique {d : Disk} {now : Int} {sources : List Source} {files files' : List CacheFile}
    (h : List.Forall₂ (l.IsFreshFile d now) sources files)
    (h' : List.Forall₂ (l.IsFreshFile d now) sources files') : files = files' := by
  rw [← l.check_eq_some_iff] at h h'
  exact Option.some.inj (h.symm.trans h')

theorem exists_check_iff {d : Disk} {now : Int} {sources : List Source} :
    (∃ files, l.cache.check d now (sources.map (·.identifier)) = some files) ↔
      ∀ s ∈ sources, l.HasFreshFile d now s := by
  simp only [Cache.exists_check_iff, List.forall_mem_map, l.freshFile?_eq_some_iff]
  rfl

variable {l} in
theorem isFileOf_of_isFreshFile {d : Disk} {now : Int} {sources : List Source}
    {files : List CacheFile} (h : List.Forall₂ (l.IsFreshFile d now) sources files) :
    List.Forall₂ l.IsFileOf sources files :=
  h.imp fun _ _ => IsFreshFile.isFileOf

/-! ### Loading files -/

/-- Files that have had turns. -/
def filesAfter (turns : List CacheFile) (w : World σ) : Work CacheFile FileProgress (World σ) :=
  l.builder.filePipeline.run turns (l.builder.filePipeline.start w)

/-- Whether a file serves its list when files take turns: its list is in the registry when its first
turn comes; or it is missing there, and the file can be read in its second turn and its text be
compiled in its third. -/
inductive Serves (w : World σ) (order : List CacheFile) (f : CacheFile) : Prop
  | registered (before : List CacheFile) {list : RegisteredList}
      (hturn : before ++ [f] <+: order) (hbefore : f ∉ before)
      (hlookup : (l.builder.lookup f.identifier (l.filesAfter before w).world.registry).1 =
        .ok (some list))
  | compiled (before between later : List CacheFile) {encoded : String} {list : RegisteredList}
      (hturns : before ++ [f] ++ (between ++ [f]) ++ (later ++ [f]) <+: order)
      (hbefore : f ∉ before) (hbetween : f ∉ between) (hlater : f ∉ later)
      (hlookup : (l.builder.lookup f.identifier (l.filesAfter before w).world.registry).1 = .ok none)
      (hread : w.disk.readText (.text f.path) = .ok encoded)
      (hcompile : (l.builder.compile f.identifier encoded
        (l.filesAfter (before ++ [f] ++ (between ++ [f]) ++ later) w).world.registry).1 = .ok list)

/-- Loading files changes neither the disk nor what has been requested. -/
theorem fileStep_frame (b : ListBuilder σ) (f : CacheFile) (p : FileProgress) (w : World σ) :
    (b.fileStep f p w).2.disk = w.disk ∧ (b.fileStep f p w).2.requests = w.requests := by
  cases p <;> exact ⟨rfl, rfl⟩

theorem filesAfter_frame (turns : List CacheFile) (w : World σ) :
    (l.filesAfter turns w).world.disk = w.disk ∧
      (l.filesAfter turns w).world.requests = w.requests :=
  ⟨l.builder.filePipeline.run_preserves (·.disk) (fun f p w => (fileStep_frame _ f p w).1) turns _,
    l.builder.filePipeline.run_preserves (·.requests) (fun f p w => (fileStep_frame _ f p w).2)
      turns _⟩

variable {l} {w : World σ} {f : CacheFile} {turns between : List CacheFile}

/-- What a file does in its next turn. -/
theorem filesAfter_next (h : f ∉ between) :
    (l.filesAfter (turns ++ (between ++ [f])) w).progress f =
      (l.builder.fileStep f ((l.filesAfter turns w).progress f)
        (l.filesAfter (turns ++ between) w).world).1 := by
  unfold filesAfter
  rw [Pipeline.run_append, l.builder.filePipeline.progress_run_next h, ← Pipeline.run_append]
  rfl

theorem filesAfter_lookup (h : f ∉ between) :
    (l.filesAfter (between ++ [f]) w).progress f =
      .ofLookup (l.builder.lookup f.identifier (l.filesAfter between w).world.registry).1 :=
  @filesAfter_next σ l w f [] between h

theorem filesAfter_read (h : f ∉ between) (hmissed : (l.filesAfter turns w).progress f = .missed) :
    (l.filesAfter (turns ++ (between ++ [f])) w).progress f =
      .ofRead (w.disk.readText (.text f.path)) := by
  rw [filesAfter_next h, hmissed]
  show FileProgress.ofRead ((l.filesAfter (turns ++ between) w).world.disk.readText _) = _
  rw [(l.filesAfter_frame _ w).1]

theorem filesAfter_compile (h : f ∉ between) {encoded : String}
    (hread : (l.filesAfter turns w).progress f = .read encoded) :
    (l.filesAfter (turns ++ (between ++ [f])) w).progress f =
      .finished (l.builder.compile f.identifier encoded
        (l.filesAfter (turns ++ between) w).world.registry).1 := by
  rw [filesAfter_next h, hread]
  rfl

theorem filesAfter_of_finished {order : List CacheFile} (h : turns <+: order)
    {result : Except Error RegisteredList}
    (hfinished : (l.filesAfter turns w).progress f = .finished result) :
    (l.filesAfter order w).progress f = .finished result := by
  obtain ⟨after, rfl⟩ := h
  unfold filesAfter at hfinished ⊢
  rw [Pipeline.run_append]
  exact l.builder.filePipeline.progress_run_of_fixed (fun _ => rfl) hfinished after

/-- The turns in which a file is looked up, read and compiled. -/
theorem exists_turns {order : List CacheFile} (hcount : ListBuilder.fileStages ≤ order.count f) :
    ∃ before between later, f ∉ before ∧ f ∉ between ∧ f ∉ later ∧
      before ++ [f] ++ (between ++ [f]) ++ (later ++ [f]) <+: order := by
  have hcount : 3 ≤ order.count f := hcount
  obtain ⟨before, rest, rfl, hbefore, hfirst⟩ := exists_next_turn (by omega : 0 < order.count f)
  obtain ⟨between, rest, rfl, hbetween, hsecond⟩ := exists_next_turn (by omega : 0 < rest.count f)
  obtain ⟨later, after, rfl, hlater, _⟩ := exists_next_turn (by omega : 0 < rest.count f)
  exact ⟨before, between, later, hbefore, hbetween, hlater, after, by simp⟩

/-- A file whose list is in the registry, or can be had from its text, gives the list. -/
theorem exists_finished_of_serves {order : List CacheFile} (h : l.Serves w order f) :
    ∃ list, (l.filesAfter order w).progress f = .finished (.ok list) := by
  cases h with
  | registered before hturn hbefore hlookup =>
    have hfound := (filesAfter_lookup (l := l) (w := w) hbefore).trans
      (congrArg FileProgress.ofLookup hlookup)
    exact ⟨_, filesAfter_of_finished hturn hfound⟩
  | compiled before between later hturns hbefore hbetween hlater hlookup hread hcompile =>
    have hmissed := (filesAfter_lookup (l := l) (w := w) hbefore).trans
      (congrArg FileProgress.ofLookup hlookup)
    have hopened := (filesAfter_read hbetween hmissed).trans (congrArg FileProgress.ofRead hread)
    have hcompiled := (filesAfter_compile hlater hopened).trans
      (congrArg FileProgress.finished hcompile)
    exact ⟨_, filesAfter_of_finished hturns hcompiled⟩

/-- A file that gives its list has found it in the registry, or has not failed in any turn. -/
theorem serves_of_finished {order : List CacheFile}
    (hcount : ListBuilder.fileStages ≤ order.count f) {list : RegisteredList}
    (h : (l.filesAfter order w).progress f = .finished (.ok list)) : l.Serves w order f := by
  -- what has failed in one turn does not give a list in the end
  have hresult : ∀ {turns : List CacheFile} {result}, turns <+: order →
      (l.filesAfter turns w).progress f = .finished result → result = .ok list := by
    intro turns result hprefix hfinished
    exact FileProgress.finished.inj ((filesAfter_of_finished hprefix hfinished).symm.trans h)
  obtain ⟨before, between, later, hbefore, hbetween, hlater, hthird⟩ := exists_turns hcount
  have hsecond := (List.prefix_append _ _).trans hthird
  have hfirst := (List.prefix_append _ _).trans hsecond
  have hlooked := filesAfter_lookup (l := l) (w := w) hbefore
  cases hlookup : (l.builder.lookup f.identifier (l.filesAfter before w).world.registry).1 with
  | error e =>
    rw [hlookup] at hlooked
    cases hresult hfirst hlooked
  | ok found =>
    cases found with
    | some found => exact .registered before hfirst hbefore hlookup
    | none =>
      rw [hlookup] at hlooked
      have hopened := filesAfter_read hbetween hlooked
      cases hread : w.disk.readText (.text f.path) with
      | error e =>
        rw [hread] at hopened
        cases hresult hsecond hopened
      | ok encoded =>
        rw [hread] at hopened
        exact .compiled before between later hthird hbefore hbetween hlater hlookup hread
          (hresult hthird (filesAfter_compile hlater hopened))

/-- A file that takes turns gives its list exactly when it serves it. -/
theorem finished_iff_serves {order : List CacheFile}
    (hcount : ListBuilder.fileStages ≤ order.count f) :
    (∃ list, (l.filesAfter order w).progress f = .finished (.ok list)) ↔ l.Serves w order f :=
  ⟨fun ⟨_, h⟩ => serves_of_finished hcount h, exists_finished_of_serves⟩

/-! ### All lists -/

theorem allLists_cons (result : Except Error RegisteredList)
    (results : List (Except Error RegisteredList)) (lists : List RegisteredList) :
    allLists (result :: results) = .ok lists ↔
      ∃ first rest, result = .ok first ∧ allLists results = .ok rest ∧ lists = first :: rest := by
  unfold allLists
  rw [List.mapM_cons]
  cases result with
  | error e => simp [Except.toOption]
  | ok first =>
    cases results.mapM Except.toOption with
    | none => simp [Except.toOption]
    | some rest => simp [Except.toOption, eq_comm]

/-- The only failure is that some list was not found. -/
theorem eq_notFound_of_allLists {results : List (Except Error RegisteredList)} {e : Error}
    (h : allLists results = .error e) : e = .notFound := by
  unfold allLists at h
  split at h
  · cases h
  · exact (Except.error.inj h).symm

/-- All lists are had if each of them is. -/
theorem allLists_map_eq_ok_iff {α : Type} {result : α → Except Error RegisteredList} {as : List α}
    {lists : List RegisteredList} :
    allLists (as.map result) = .ok lists ↔
      List.Forall₂ (fun a list => result a = .ok list) as lists := by
  induction as generalizing lists with
  | nil => simp [allLists, eq_comm]
  | cons a as ih =>
    rw [List.map_cons, allLists_cons, List.forall₂_cons_left_iff]
    simp only [ih]

theorem exists_allLists_map_iff {α : Type} {result : α → Except Error RegisteredList}
    {as : List α} :
    (∃ lists, allLists (as.map result) = .ok lists) ↔ ∀ a ∈ as, ∃ list, result a = .ok list := by
  induction as with
  | nil => exact iff_of_true ⟨[], rfl⟩ (by simp)
  | cons a as ih =>
    rw [List.forall_mem_cons, ← ih]
    simp only [List.map_cons, allLists_cons]
    constructor
    · rintro ⟨_, first, rest, hfirst, hrest, _⟩
      exact ⟨⟨first, hfirst⟩, rest, hrest⟩
    · rintro ⟨⟨first, hfirst⟩, rest, hrest⟩
      exact ⟨_, first, rest, hfirst, hrest, rfl⟩

variable (l)

theorem loadFilesInTurns_frame (turns : Turns CacheFile ListBuilder.fileStages)
    (files : List CacheFile) (w : World σ) :
    (l.loadFilesInTurns turns files w).2.disk = w.disk ∧
      (l.loadFilesInTurns turns files w).2.requests = w.requests :=
  l.filesAfter_frame (turns.order files) w

theorem loadFiles_frame (files : List CacheFile) (w : World σ) :
    (l.loadFiles files w).2.disk = w.disk ∧ (l.loadFiles files w).2.requests = w.requests :=
  l.loadFilesInTurns_frame (.beginTogether 2) files w

/-- All lists are had from files exactly when each file serves its list. -/
theorem exists_loadFilesInTurns_iff (turns : Turns CacheFile ListBuilder.fileStages)
    (files : List CacheFile) (w : World σ) :
    (∃ lists, (l.loadFilesInTurns turns files w).1 = .ok lists) ↔
      ∀ f ∈ files, l.Serves w (turns.order files) f := by
  unfold loadFilesInTurns
  rw [exists_allLists_map_iff]
  refine forall₂_congr fun f hf => ?_
  simp only [FileProgress.result_eq_ok_iff]
  exact finished_iff_serves (turns.le_count files f hf)

/-! ### Loading -/

variable
  (fromFiles : List CacheFile → World σ → Except Error (List RegisteredList) × World σ)
  (refresh : World σ → Except Error (List RegisteredList) × World σ)

/-- A load either takes all lists from fresh files, or refreshes all sources after it may have tried
to. -/
theorem loadBy_cases (now : Int) (force : Bool) (w : World σ) :
    (force = false ∧ ∃ files, List.Forall₂ (l.IsFreshFile w.disk now) l.sources files ∧
      (∃ lists, (fromFiles files w).1 = .ok lists) ∧
      l.loadBy fromFiles refresh now force w = fromFiles files w) ∨
    (l.loadBy fromFiles refresh now force w = refresh w ∧
      (force = true ∨ ¬∃ files, List.Forall₂ (l.IsFreshFile w.disk now) l.sources files)) ∨
    (force = false ∧ ∃ files, List.Forall₂ (l.IsFreshFile w.disk now) l.sources files ∧
      (¬∃ lists, (fromFiles files w).1 = .ok lists) ∧
      l.loadBy fromFiles refresh now force w = refresh (fromFiles files w).2) := by
  simp only [← l.check_eq_some_iff]
  unfold loadBy
  cases force with
  | true => exact .inr (.inl ⟨rfl, .inl rfl⟩)
  | false =>
    cases l.cache.check w.disk now (l.sources.map (·.identifier)) with
    | none => exact .inr (.inl ⟨rfl, .inr (by simp)⟩)
    | some files =>
      rcases hfiles : fromFiles files w with ⟨e | lists, w'⟩
      · exact .inr (.inr ⟨rfl, files, rfl, by simp [hfiles], by simp [hfiles]⟩)
      · exact .inl ⟨rfl, files, rfl, ⟨lists, by rw [hfiles]⟩, by simp [hfiles]⟩

/-- A load uses fresh files if they give lists. -/
theorem loadBy_eq_fromFiles {now : Int} {w : World σ} {files : List CacheFile}
    (hfresh : List.Forall₂ (l.IsFreshFile w.disk now) l.sources files)
    {lists : List RegisteredList} (h : (fromFiles files w).1 = .ok lists) :
    l.loadBy fromFiles refresh now false w = fromFiles files w := by
  have hfiles : fromFiles files w = (.ok lists, (fromFiles files w).2) := Prod.ext h rfl
  unfold loadBy
  rw [if_neg Bool.false_ne_true, l.check_eq_some_iff.mpr hfresh]
  dsimp only
  rw [hfiles]

theorem load_cases (network : Network) (now : Int) (force : Bool) (w : World σ) :
    (force = false ∧ ∃ files, List.Forall₂ (l.IsFreshFile w.disk now) l.sources files ∧
      (∃ lists, (l.loadFiles files w).1 = .ok lists) ∧
      l.load network now force w = l.loadFiles files w) ∨
    (l.load network now force w = l.refreshSources network now w ∧
      (force = true ∨ ¬∃ files, List.Forall₂ (l.IsFreshFile w.disk now) l.sources files)) ∨
    (force = false ∧ ∃ files, List.Forall₂ (l.IsFreshFile w.disk now) l.sources files ∧
      (¬∃ lists, (l.loadFiles files w).1 = .ok lists) ∧
      l.load network now force w = l.refreshSources network now (l.loadFiles files w).2) :=
  l.loadBy_cases l.loadFiles (l.refreshSources network now) now force w

theorem refreshInTurns_requests (hnodup : l.sources.Nodup)
    (turns : Turns Source Refresher.stages) (network : Network) (now : Int) (w : World σ) :
    ∃ made, made.Perm (l.sources.map (·.location)) ∧
      (l.refreshInTurns turns network now w).2.requests = made ++ w.requests :=
  (l.refresher network now).requests_of_turns turns hnodup w

theorem refreshSources_requests (network : Network) (now : Int) (w : World σ) :
    (l.refreshSources network now w).2.requests =
      (l.sources.map (·.location)).reverse ++ w.requests :=
  w.forEach_requests ((l.refresher network now).refresh_requests) l.sources

/-- A load that makes no request takes all lists from fresh files. -/
theorem load_eq_loadFiles_of_quiet {network : Network} {now : Int} {force : Bool} {w : World σ}
    (hquiet : (l.load network now force w).2.requests = w.requests) :
    ∃ files, List.Forall₂ (l.IsFreshFile w.disk now) l.sources files ∧
      l.load network now force w = l.loadFiles files w := by
  by_cases hsources : l.sources = []
  · refine ⟨[], by rw [hsources]; exact .nil, ?_⟩
    unfold load loadBy refreshSources
    rw [hsources]
    cases force <;> rfl
  · have hgrows : (l.sources.map (·.location)).reverse ++ w.requests ≠ w.requests := by
      simpa using hsources
    rcases l.load_cases network now force w with
      ⟨_, files, hfresh, _, hload⟩ | ⟨hload, _⟩ | ⟨_, files, _, _, hload⟩
    · exact ⟨files, hfresh, hload⟩
    · rw [hload, l.refreshSources_requests] at hquiet
      exact absurd hquiet hgrows
    · rw [hload, l.refreshSources_requests, (l.loadFiles_frame files w).2] at hquiet
      exact absurd hquiet hgrows

variable {l}

/-- A load that may not use the cache, or makes a request, is a refresh that starts from the same
disk. -/
theorem load_eq_refreshSources_of_disk {network : Network} {now : Int} {force : Bool}
    {w : World σ}
    (h : force = true ∨ (l.load network now force w).2.requests ≠ w.requests) :
    ∃ w', w'.disk = w.disk ∧ l.load network now force w = l.refreshSources network now w' := by
  rcases l.load_cases network now force w with
    ⟨hforce, files, _, _, hload⟩ | ⟨hload, _⟩ | ⟨_, files, _, _, hload⟩
  · rcases h with htrue | hrequests
    · rw [hforce] at htrue
      cases htrue
    · rw [hload, (l.loadFiles_frame files w).2] at hrequests
      exact absurd rfl hrequests
  · exact ⟨w, rfl, hload⟩
  · exact ⟨_, (l.loadFiles_frame files w).1, hload⟩

theorem load_eq_refreshSources {network : Network} {now : Int} {force : Bool} {w : World σ}
    (h : force = true ∨ (l.load network now force w).2.requests ≠ w.requests) :
    ∃ w', l.load network now force w = l.refreshSources network now w' := by
  obtain ⟨w', _, hload⟩ := load_eq_refreshSources_of_disk h
  exact ⟨w', hload⟩

/-- The only failure of a load is that some list was not found. -/
theorem eq_notFound_of_load {network : Network} {now : Int} {force : Bool} {w : World σ}
    {e : Error} (h : (l.load network now force w).1 = .error e) : e = .notFound := by
  rcases l.load_cases network now force w with
    ⟨_, files, _, _, hload⟩ | ⟨hload, _⟩ | ⟨_, files, _, _, hload⟩
  all_goals
    rw [hload] at h
    exact eq_notFound_of_allLists h

variable (l)

/-- In whatever order files and sources take turns, a load makes either no request or one for each
source. It makes none exactly when the cache may be used, every source has a fresh file, and every
file serves its list. -/
theorem load_requests (hsources : l.sources ≠ []) (hchecked : Source.checkAll l.sources = .ok ())
    (fileTurns : Turns CacheFile ListBuilder.fileStages)
    (sourceTurns : Turns Source Refresher.stages) (network : Network) (now : Int) (force : Bool)
    (w : World σ) :
    ((l.loadInTurns fileTurns sourceTurns network now force w).2.requests = w.requests ∨
      ∃ made, made.Perm (l.sources.map (·.location)) ∧
        (l.loadInTurns fileTurns sourceTurns network now force w).2.requests =
          made ++ w.requests) ∧
    ((l.loadInTurns fileTurns sourceTurns network now force w).2.requests = w.requests ↔
      force = false ∧ ∃ files, List.Forall₂ (l.IsFreshFile w.disk now) l.sources files ∧
        ∀ f ∈ files, l.Serves w (fileTurns.order files) f) := by
  have hnodup : l.sources.Nodup := (Source.nodup_keys_of_checkAll hchecked).of_map _
  -- no requests are none of those that a refresh makes
  have hgrows : ∀ made, made.Perm (l.sources.map (·.location)) → made ++ w.requests ≠ w.requests := by
    intro made hmade heq
    have hnil : made = [] := by simpa using heq
    subst hnil
    exact hsources (List.map_eq_nil_iff.mp (List.nil_perm.mp hmade))
  have hfiles := fun files => (l.loadFilesInTurns_frame fileTurns files w).2
  rcases l.loadBy_cases (l.loadFilesInTurns fileTurns) (l.refreshInTurns sourceTurns network now)
    now force w with ⟨rfl, files, hfresh, hok, hload⟩ | ⟨hload, hwhy⟩ |
      ⟨rfl, files, hfresh, hnot, hload⟩
  · have hsame := (congrArg (·.2.requests) hload).trans (hfiles files)
    have hserves := (l.exists_loadFilesInTurns_iff fileTurns files w).mp hok
    exact ⟨.inl hsame, iff_of_true hsame ⟨rfl, files, hfresh, hserves⟩⟩
  -- refreshed at once: the cache may not be used, or some file is not fresh
  · obtain ⟨made, hmade, hrequests⟩ := l.refreshInTurns_requests hnodup sourceTurns network now w
    have hall := (congrArg (·.2.requests) hload).trans hrequests
    refine ⟨.inr ⟨made, hmade, hall⟩, iff_of_false (hall ▸ hgrows made hmade) ?_⟩
    rintro ⟨hforce, files, hfresh, _⟩
    rcases hwhy with htrue | hnone
    · rw [hforce] at htrue
      cases htrue
    · exact hnone ⟨files, hfresh⟩
  -- refreshed after all: every file is fresh, but some list cannot be had from its file
  · obtain ⟨made, hmade, hrequests⟩ := l.refreshInTurns_requests hnodup sourceTurns network now
      (l.loadFilesInTurns fileTurns files w).2
    rw [hfiles files] at hrequests
    have hall := (congrArg (·.2.requests) hload).trans hrequests
    refine ⟨.inr ⟨made, hmade, hall⟩, iff_of_false (hall ▸ hgrows made hmade) ?_⟩
    rintro ⟨_, files', hfresh', hserves⟩
    obtain rfl := l.files_unique hfresh hfresh'
    exact hnot ((l.exists_loadFilesInTurns_iff fileTurns files w).mpr hserves)

/-- A loader of one list. -/
def single : Loader Registry where
  sources := [⟨"a", "https://a.test/"⟩]
  cache := { directory := "lists", retention := 3600 * second }
  builder := {
    translator := Filter.translator, registry := some .memory, limit := 10, optimize := false }
  retention := 3600 * second
  retention_eq := rfl

/-- A loader of two lists. -/
def pair : Loader Registry :=
  { single with sources := [⟨"a", "https://a.test/"⟩, ⟨"b", "https://b.test/"⟩] }

/-- A disk with the files of both lists, of which the second is given. -/
def pairDisk (item : Item) : Disk where
  items := [
    ([.text "lists"], .directory),
    ([.text "lists", .text "a.json"], .file (.bytes (.text "[]")) 0),
    ([.text "lists", .text "b.json"], item)]

/-- A registry with both lists. -/
def pairRegistry : Registry where
  lists := [⟨0, { identifier := "a", rules := [], encodedSize := 2 }⟩,
    ⟨1, { identifier := "b", rules := [], encodedSize := 2 }⟩]
  next := 2

/-- While one of two files cannot be opened, both lists are requested, in whatever order. While both
are registered, none is, though one of the files cannot be read. -/
theorem load_requests_of_pair :
    pair.sources ≠ [] ∧ Source.checkAll pair.sources = .ok () ∧
      (∀ fileTurns sourceTurns, ∃ made, made.Perm ["https://a.test/", "https://b.test/"] ∧
        (pair.loadInTurns fileTurns sourceTurns (fun _ => .error .notFound) 0 false
          { disk := pairDisk (.closed (.other "closed")), registry := pairRegistry }).2.requests =
            made) ∧
      (pair.loadInTurns (.beginTogether 2) (.oneByOne Refresher.stages) (fun _ => .error .notFound) 0
        false { disk := pairDisk (.file (.failure (.other "broken")) 0),
                registry := pairRegistry }).2.requests = [] := by
  have hsources : pair.sources ≠ [] := by simp [pair]
  have hchecked : Source.checkAll pair.sources = .ok () := by decide
  refine ⟨hsources, hchecked, fun fileTurns sourceTurns => ?_, ?_⟩
  · have hstale : pair.cache.check (pairDisk (.closed (.other "closed"))) 0
        (pair.sources.map (·.identifier)) = none := by
      decide +kernel
    obtain ⟨hrequests, hnone⟩ := pair.load_requests hsources hchecked fileTurns sourceTurns
      (fun _ => .error .notFound) 0 false
      { disk := pairDisk (.closed (.other "closed")), registry := pairRegistry }
    rcases hrequests with hsame | ⟨made, hmade, hall⟩
    · obtain ⟨_, files, hfresh, _⟩ := hnone.mp hsame
      cases hstale.symm.trans (pair.check_eq_some_iff.mpr hfresh)
    · exact ⟨made, hmade, by simpa using hall⟩
  · have hfresh : pair.cache.check (pairDisk (.file (.failure (.other "broken")) 0)) 0
        (pair.sources.map (·.identifier)) =
          some [⟨"a", "lists/a.json", 0⟩, ⟨"b", "lists/b.json", 0⟩] := by
      decide +kernel
    refine (pair.load_requests hsources hchecked (.beginTogether 2) (.oneByOne Refresher.stages)
      (fun _ => .error .notFound) 0 false _).2.mpr
        ⟨rfl, _, pair.check_eq_some_iff.mp hfresh, fun f hf => ?_⟩
    rcases List.mem_pair.mp hf with rfl | rfl
    · exact .registered [] (by decide +kernel) (by decide) rfl
    · exact .registered [⟨"a", "lists/a.json", 0⟩] (by decide +kernel) (by decide) rfl

end Loader

end ContentBlocker
