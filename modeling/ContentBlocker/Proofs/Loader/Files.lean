import ContentBlocker.Proofs.Loader.Requests
import ContentBlocker.Proofs.Registry.Memory

/-!
# Files in any order

Over a registry in memory it does not matter in which order the files of sources take turns
(`Loader.loadFiles_any_order`). What comes out of a file is the list that has been registered for its
source, or else what its text compiles to (`CacheFile.outcome`), and no other file has a part in it.

At every moment the registry differs from the one at the start only in the lists of files that had
none and have been compiled (`FilesUnderWay`).
-/

namespace ContentBlocker

variable [FilterReader]

namespace CacheFile

/-- The key of the list in a file. -/
def key (f : CacheFile) : String :=
  Key.ofIdentifier f.identifier

/-- Whether the text in a file can be read and compiles to a list. -/
def Holds (f : CacheFile) (d : Disk) (list : CompiledList) : Prop :=
  ∃ encoded, d.readText (.text f.path) = .ok encoded ∧
    CompiledList.compile f.key encoded = .ok list

/-- What comes out of a file, but for the serial number of a list that is compiled. -/
def outcome (f : CacheFile) (w : World Registry) : Except Error CompiledList :=
  match w.registry.get? f.key with
  | some entry => .ok entry.list
  | none => do
    let encoded ← (w.disk.readText (.text f.path)).mapError .disk
    (CompiledList.compile f.key encoded).mapError .registry

theorem outcome_of_registered {f : CacheFile} {w : World Registry} {entry : RegisteredList}
    (h : w.registry.get? f.key = some entry) : f.outcome w = .ok entry.list := by
  rw [outcome, h]

theorem outcome_of_read {f : CacheFile} {w : World Registry} {encoded : String}
    (h : w.registry.get? f.key = none) (hread : w.disk.readText (.text f.path) = .ok encoded) :
    f.outcome w = (CompiledList.compile f.key encoded).mapError .registry := by
  rw [outcome, h, hread]
  rfl

theorem outcome_of_unread {f : CacheFile} {w : World Registry} {cause : DiskError}
    (h : w.registry.get? f.key = none) (hread : w.disk.readText (.text f.path) = .error cause) :
    f.outcome w = .error (.disk cause) := by
  rw [outcome, h, hread]
  rfl

/-- Where no list is registered, a file gives the one that it holds. -/
theorem outcome_eq_ok_iff {f : CacheFile} {w : World Registry} {list : CompiledList}
    (h : w.registry.get? f.key = none) : f.outcome w = .ok list ↔ f.Holds w.disk list := by
  unfold Holds
  cases hread : w.disk.readText (.text f.path) with
  | error cause => simp [outcome_of_unread h hread]
  | ok encoded =>
    rw [outcome_of_read h hread]
    cases hcompile : CompiledList.compile f.key encoded <;> simp [Except.mapError, hcompile]

/-- Whether a file can have come so far since it was in a world. -/
def IsOf (f : CacheFile) (w : World Registry) : FileProgress → Prop
  | .waiting => True
  | .missed => w.registry.get? f.key = none
  | .read encoded =>
    w.registry.get? f.key = none ∧ w.disk.readText (.text f.path) = .ok encoded
  | .finished result => result.map (·.list) = f.outcome w

end CacheFile

namespace ListBuilder

variable {b : ListBuilder Registry} (hb : b.registry = some .memory) {f : CacheFile}
  (hkey : Key.isValid f.key = true)

include hb hkey

theorem fileStep_waiting (w : World Registry) :
    b.fileStep f .waiting w = (.ofLookup (.ok (w.registry.get? f.key)), w) := by
  show (FileProgress.ofLookup (b.lookup f.identifier w.registry).1,
    { w with registry := (b.lookup f.identifier w.registry).2 }) = _
  rw [lookup_memory hb hkey]
  rfl

/-- The text of a file compiles, and then its list is registered, or nothing changes. -/
theorem fileStep_read (encoded : String) (w : World Registry) :
    (∃ list, CompiledList.compile f.key encoded = .ok list ∧
      b.fileStep f (.read encoded) w = (.finished (.ok ⟨w.registry.next, list⟩),
        { w with registry := w.registry.insert list })) ∨
    ∃ e, CompiledList.compile f.key encoded = .error e ∧
      b.fileStep f (.read encoded) w = (.finished (.error (.registry e)), w) := by
  have hstep : b.fileStep f (.read encoded) w =
      (.finished (b.compile f.identifier encoded w.registry).1,
        { w with registry := (b.compile f.identifier encoded w.registry).2 }) := rfl
  rw [hstep]
  rcases compile_memory hb hkey encoded w.registry with
    ⟨list, hlist, hcompile⟩ | ⟨e, herror, hcompile⟩
  · exact .inl ⟨list, hlist, by rw [hcompile]⟩
  · exact .inr ⟨e, herror, by rw [hcompile]⟩

end ListBuilder

/-! ### The invariant -/

variable {w : World Registry} {st : Work CacheFile FileProgress (World Registry)}
  {files : List CacheFile} {f : CacheFile}

/-- How the world follows from how far files have come, if loading them started in another world: of
those that have succeeded the lists are registered. -/
structure FilesUnderWay (files : List CacheFile) (w : World Registry)
    (st : Work CacheFile FileProgress (World Registry)) : Prop where
  isOf : ∀ f : CacheFile, f.IsOf w (st.progress f)
  mem : ∀ f, st.progress f ≠ .waiting → f ∈ files
  disk : st.world.disk = w.disk
  registered : ∀ f entry, st.progress f = .finished (.ok entry) →
    st.world.registry.get? f.key = some entry
  others : ∀ key, (∀ f entry, st.progress f = .finished (.ok entry) → f.key ≠ key) →
    st.world.registry.get? key = w.registry.get? key
  same : (∀ f ∈ files, (w.registry.get? f.key).isSome) → st.world = w

namespace FilesUnderWay

theorem start (b : ListBuilder Registry) (files : List CacheFile) (w : World Registry) :
    FilesUnderWay files w (b.filePipeline.start w) where
  isOf _ := trivial
  mem _ h := absurd rfl h
  disk := rfl
  registered _ _ h := by cases h
  others _ _ := rfl
  same _ := rfl

variable (h : FilesUnderWay files w st) (hf : f ∈ files)

include h hf

theorem mem_set {p : FileProgress} {w' : World Registry} (x : CacheFile) :
    (st.set p w' f).progress x ≠ .waiting → x ∈ files :=
  st.forall_set p w' (motive := fun x p => p ≠ .waiting → x ∈ files) h.mem (fun _ => hf) x

omit hf in
theorem isOf_set {p : FileProgress} {w' : World Registry} (hp : f.IsOf w p) (x : CacheFile) :
    x.IsOf w ((st.set p w' f).progress x) :=
  st.forall_set p w' (motive := fun x p => x.IsOf w p) h.isOf hp x

/-- A file may come on without a change of the world, if its list is registered by then. -/
theorem quiet {p : FileProgress} (hp : f.IsOf w p)
    (hstays : ∀ entry, st.progress f = .finished (.ok entry) → p = .finished (.ok entry))
    (hentry : ∀ entry, p = .finished (.ok entry) → st.world.registry.get? f.key = some entry) :
    FilesUnderWay files w (st.set p st.world f) := by
  refine ⟨h.isOf_set hp, h.mem_set hf, h.disk, fun x entry hx => ?_, fun key hkey => ?_, h.same⟩
  · by_cases hxf : x = f
    · subst hxf
      rw [st.progress_set_self] at hx
      exact hentry entry hx
    · rw [st.progress_set_of_ne _ _ hxf] at hx
      exact h.registered x entry hx
  · refine h.others key fun x entry hx => hkey x entry ?_
    by_cases hxf : x = f
    · subst hxf
      rw [st.progress_set_self]
      exact hstays entry hx
    · rwa [st.progress_set_of_ne _ _ hxf]

variable (hnodup : (files.map CacheFile.key).Nodup)

include hnodup

/-- What is registered for a file that has not succeeded is what was at the start. -/
theorem get?_of_unfinished (hp : ∀ entry, st.progress f ≠ .finished (.ok entry)) :
    st.world.registry.get? f.key = w.registry.get? f.key := by
  refine h.others f.key fun x entry hx hkey => ?_
  have hmem : x ∈ files := h.mem x (by simp [hx])
  obtain rfl := List.inj_on_of_nodup_map hnodup hmem hf hkey
  exact hp entry hx

/-- The list of a file that has been read is registered. -/
theorem register {encoded : String} {list : CompiledList} (hp : st.progress f = .read encoded)
    (hlist : CompiledList.compile f.key encoded = .ok list) :
    FilesUnderWay files w (st.set (.finished (.ok ⟨st.world.registry.next, list⟩))
      { st.world with registry := st.world.registry.insert list } f) := by
  have hread := h.isOf f
  rw [hp] at hread
  have hkey := CompiledList.identifier_of_compile hlist
  have hfinished : f.IsOf w (.finished (.ok ⟨st.world.registry.next, list⟩)) := by
    rw [CacheFile.IsOf, CacheFile.outcome_of_read hread.1 hread.2, hlist]
    rfl
  refine ⟨h.isOf_set hfinished, h.mem_set hf, h.disk, fun x entry hx => ?_, fun key hother => ?_,
    fun hall => ?_⟩
  · rw [st.world_set, Registry.get?_insert, hkey]
    by_cases hxf : x = f
    · subst hxf
      rw [st.progress_set_self] at hx
      cases hx
      exact if_pos rfl
    · -- the list of another file that has succeeded has another key
      rw [st.progress_set_of_ne _ _ hxf] at hx
      have hmem : x ∈ files := h.mem x (by simp [hx])
      rw [if_neg fun hsame => hxf (List.inj_on_of_nodup_map hnodup hmem hf hsame)]
      exact h.registered x entry hx
  · have hne : f.key ≠ key := hother f _ (st.progress_set_self ..)
    rw [st.world_set, Registry.get?_insert, hkey, if_neg (Ne.symm hne)]
    refine h.others key fun x entry hx => ?_
    have hxf : x ≠ f := by
      rintro rfl
      rw [hp] at hx
      cases hx
    exact hother x entry (by rw [st.progress_set_of_ne _ _ hxf, hx])
  · have hsome := hall f hf
    rw [hread.1] at hsome
    cases hsome

variable {b : ListBuilder Registry} (hregistry : b.registry = some .memory)
  (hkey : Key.isValid f.key = true)

include hregistry hkey

/-- Every turn keeps the world in step with the files. -/
theorem turn : FilesUnderWay files w (b.filePipeline.turn st f) := by
  have hisOf := h.isOf f
  have hbefore := h.get?_of_unfinished hf hnodup
  show FilesUnderWay files w (st.set (b.fileStep f (st.progress f) st.world).1
    (b.fileStep f (st.progress f) st.world).2 f)
  cases hp : st.progress f with
  | waiting =>
    have hget := hbefore (by simp [hp])
    rw [ListBuilder.fileStep_waiting hregistry hkey, hget]
    cases hfound : w.registry.get? f.key with
    | none => exact h.quiet hf hfound (by simp [hp]) (by simp [FileProgress.ofLookup])
    | some entry =>
      refine h.quiet hf (CacheFile.outcome_of_registered hfound).symm (by simp [hp])
        fun other heq => ?_
      cases heq
      exact hget.trans hfound
  | missed =>
    rw [hp] at hisOf
    show FilesUnderWay files w
      (st.set (.ofRead (st.world.disk.readText (.text f.path))) st.world f)
    -- no file writes, so what is read is what was on the disk at the start
    rw [h.disk]
    cases hread : w.disk.readText (.text f.path) with
    | error cause =>
      exact h.quiet hf (CacheFile.outcome_of_unread hisOf hread).symm (by simp [hp])
        (by simp [FileProgress.ofRead])
    | ok encoded => exact h.quiet hf ⟨hisOf, hread⟩ (by simp [hp]) (by simp [FileProgress.ofRead])
  | read encoded =>
    rw [hp] at hisOf
    rcases ListBuilder.fileStep_read hregistry hkey encoded st.world with
      ⟨list, hlist, hstep⟩ | ⟨e, herror, hstep⟩
    · rw [hstep]
      exact h.register hf hnodup hp hlist
    · have houtcome := CacheFile.outcome_of_read hisOf.1 hisOf.2
      rw [herror] at houtcome
      rw [hstep]
      exact h.quiet hf houtcome.symm (by simp [hp]) (by simp)
  | finished result =>
    rw [hp] at hisOf
    refine h.quiet hf hisOf (fun entry heq => hp.symm.trans heq) fun entry heq => ?_
    exact h.registered f entry (hp.trans heq)

end FilesUnderWay

/-! ### Files of sources -/

namespace Loader

variable {l : Loader Registry}

/-- The assumptions about a loader: its registry is in memory, and its sources have keys of their
own under which lists can be registered. -/
structure IsRegular (l : Loader Registry) : Prop where
  registry : l.builder.registry = some .memory
  distinct : (l.sources.map Source.key).Nodup
  valid : ∀ s ∈ l.sources, Key.isValid s.key = true

/-- Sources that have been made and checked have keys of their own. -/
theorem isRegular_of_make [UrlChecker] (hregistry : l.builder.registry = some .memory)
    (hmade : ∀ s ∈ l.sources, Source.make s.identifier s.location = .ok s)
    (hsources : Source.checkAll l.sources = .ok ()) : l.IsRegular :=
  ⟨hregistry, Source.nodup_keys_of_checkAll hsources,
    fun s hs => Source.isValid_key_of_make (hmade s hs)⟩

theorem IsRegular.nodup (hl : l.IsRegular) : l.sources.Nodup :=
  hl.distinct.of_map _

theorem IsRegular.eq_of_key_eq (hl : l.IsRegular) {s s' : Source} (hs : s ∈ l.sources)
    (hs' : s' ∈ l.sources) (h : s.key = s'.key) : s = s' :=
  List.inj_on_of_nodup_map hl.distinct hs hs' h

omit [FilterReader] in
theorem IsFileOf.key_eq {s : Source} (h : l.IsFileOf s f) : f.key = s.key := by
  rw [CacheFile.key, h.identifier, Source.key]

omit [FilterReader] in
/-- The files of sources have the keys of the sources. -/
theorem map_key_of_isFileOf {sources : List Source} (h : List.Forall₂ l.IsFileOf sources files) :
    files.map CacheFile.key = sources.map Source.key := by
  induction h with
  | nil => rfl
  | cons hf _ ih => rw [List.map_cons, List.map_cons, ih, hf.key_eq]

/-- What comes out of files tells their lists but for serial numbers. -/
theorem map_list_eq {lists lists' : List RegisteredList}
    (h : List.Forall₂ (fun f list => CacheFile.outcome f w = .ok list.list) files lists)
    (h' : List.Forall₂ (fun f list => CacheFile.outcome f w = .ok list.list) files lists') :
    lists.map (·.list) = lists'.map (·.list) := by
  rw [← List.forall₂_eq_eq_eq, List.forall₂_map_left_iff, List.forall₂_map_right_iff]
  exact forall₂_of_common h h' fun f list list' hlist hlist' =>
    Except.ok.inj (hlist.symm.trans hlist')

section Files

variable (hl : l.IsRegular) (hfiles : List.Forall₂ l.IsFileOf l.sources files)

include hl hfiles

theorem IsRegular.nodup_files : (files.map CacheFile.key).Nodup :=
  map_key_of_isFileOf hfiles ▸ hl.distinct

theorem IsRegular.valid_file (hf : f ∈ files) : Key.isValid f.key = true := by
  obtain ⟨s, hs, hfile⟩ := exists_of_forall₂ hfiles.flip hf
  exact hfile.key_eq ▸ hl.valid s hs

theorem IsRegular.filesUnderWay {schedule : List CacheFile} (hschedule : schedule ⊆ files)
    (w : World Registry) : FilesUnderWay files w (l.filesAfter schedule w) :=
  l.builder.filePipeline.run_induction
    (fun _ _ hf hst => hst.turn hf (hl.nodup_files hfiles) hl.registry (hl.valid_file hfiles hf))
    hschedule (.start l.builder files w)

/-- Files that have taken turns have come to what comes out of them. -/
theorem IsRegular.exists_finished (turns : Turns CacheFile ListBuilder.fileStages) (hf : f ∈ files)
    (w : World Registry) : ∃ result,
      (l.filesAfter (turns.order files) w).progress f = .finished result ∧
        result.map (·.list) = f.outcome w := by
  obtain ⟨result, hresult⟩ := FileProgress.finished_of_rank
    (l.builder.filePipeline.rank_of_count (turns.le_count files f hf) w)
  have hisOf := (hl.filesUnderWay hfiles (turns.subset files) w).isOf f
  have hfinished : (l.filesAfter (turns.order files) w).progress f = .finished result := hresult
  rw [hfinished] at hisOf
  exact ⟨result, hfinished, hisOf⟩

variable (turns : Turns CacheFile ListBuilder.fileStages)

/-- Files give lists if a list comes out of each. -/
theorem IsRegular.exists_loadFiles_iff (w : World Registry) :
    (∃ lists, (l.loadFilesInTurns turns files w).1 = .ok lists) ↔
      ∀ f ∈ files, ∃ list, f.outcome w = .ok list := by
  unfold loadFilesInTurns
  rw [exists_allLists_map_iff]
  refine forall₂_congr fun f hf => ?_
  obtain ⟨result, hresult, houtcome⟩ := hl.exists_finished hfiles turns hf w
  rw [filesAfter] at hresult
  rw [hresult, ← houtcome]
  cases result <;> simp [FileProgress.result, Except.map]

/-- The lists of files are those that come out of them. -/
theorem IsRegular.outcome_of_loadFiles {lists : List RegisteredList}
    (h : (l.loadFilesInTurns turns files w).1 = .ok lists) :
    List.Forall₂ (fun f list => f.outcome w = .ok list.list) files lists := by
  refine forall₂_imp_of_mem (allLists_map_eq_ok_iff.mp h) fun f hf list hlist => ?_
  obtain ⟨result, hresult, houtcome⟩ := hl.exists_finished hfiles turns hf w
  have hok := (congrArg FileProgress.result hresult).symm.trans hlist
  rw [← houtcome, show result = .ok list from hok]
  rfl

/-- What is registered for a file in the end is what comes out of it. -/
theorem IsRegular.get?_loadFiles (hf : f ∈ files) (w : World Registry) :
    ((l.loadFilesInTurns turns files w).2.registry.get? f.key).map (·.list) =
      (f.outcome w).toOption := by
  have hrun := hl.filesUnderWay hfiles (turns.subset files) w
  obtain ⟨result, hresult, houtcome⟩ := hl.exists_finished hfiles turns hf w
  show ((l.filesAfter (turns.order files) w).world.registry.get? f.key).map (·.list) = _
  rw [← houtcome]
  cases result with
  | ok entry =>
    rw [hrun.registered f entry hresult]
    rfl
  | error e =>
    -- a file that fails had no list registered, and leaves it so
    rw [hrun.get?_of_unfinished hf (hl.nodup_files hfiles) (by simp [hresult])]
    cases hfound : w.registry.get? f.key with
    | none => rfl
    | some entry =>
      rw [CacheFile.outcome_of_registered hfound] at houtcome
      cases houtcome

theorem IsRegular.outcome_of_get?_loadFiles (hf : f ∈ files) {entry : RegisteredList}
    (hentry : (l.loadFilesInTurns turns files w).2.registry.get? f.key = some entry) :
    f.outcome w = .ok entry.list := by
  have hget := hl.get?_loadFiles hfiles turns hf w
  rw [hentry] at hget
  cases houtcome : f.outcome w with
  | ok list =>
    rw [houtcome] at hget
    exact congrArg Except.ok (Option.some.inj hget).symm
  | error e =>
    rw [houtcome] at hget
    cases hget

/-- Loading files registers nothing under other keys. -/
theorem IsRegular.get?_loadFiles_of_ne {key : String} (hkey : ∀ s ∈ l.sources, s.key ≠ key)
    (w : World Registry) :
    (l.loadFilesInTurns turns files w).2.registry.get? key = w.registry.get? key := by
  have hrun := hl.filesUnderWay hfiles (turns.subset files) w
  refine hrun.others key fun f entry hfinished hsame => ?_
  obtain ⟨s, hs, hfile⟩ := exists_of_forall₂ hfiles.flip (hrun.mem f (by simp [hfinished]))
  exact hkey s hs (hfile.key_eq.symm.trans hsame)

/-- The lists of files are registered once they have been loaded. -/
theorem IsRegular.registered_loadFiles {lists : List RegisteredList}
    (h : (l.loadFilesInTurns turns files w).1 = .ok lists) :
    List.Forall₂
      (fun s list => (l.loadFilesInTurns turns files w).2.registry.get? s.key = some list)
      l.sources lists := by
  have hrun := hl.filesUnderWay hfiles (turns.subset files) w
  refine forall₂_of_common hfiles.flip (allLists_map_eq_ok_iff.mp h) fun f s list hf hlist => ?_
  rw [← hf.key_eq]
  exact hrun.registered f list (FileProgress.result_eq_ok_iff.mp hlist)

/-- Files are not read when the lists of their sources are registered, and nothing changes. -/
theorem IsRegular.loadFiles_of_registered {lists : List RegisteredList}
    (h : List.Forall₂ (fun s list => w.registry.get? s.key = some list) l.sources lists) :
    l.loadFilesInTurns turns files w = (.ok lists, w) := by
  have hfound : ∀ f ∈ files, ∃ entry, w.registry.get? f.key = some entry := by
    intro f hf
    obtain ⟨s, hs, hfile⟩ := exists_of_forall₂ hfiles.flip hf
    obtain ⟨entry, _, hentry⟩ := exists_of_forall₂ h hs
    exact ⟨entry, hfile.key_eq ▸ hentry⟩
  have hworld : (l.loadFilesInTurns turns files w).2 = w :=
    (hl.filesUnderWay hfiles (turns.subset files) w).same fun f hf =>
      Option.isSome_iff_exists.mpr (hfound f hf)
  have hgives : ∀ f ∈ files, ∃ list, f.outcome w = .ok list := by
    intro f hf
    obtain ⟨entry, hentry⟩ := hfound f hf
    exact ⟨entry.list, CacheFile.outcome_of_registered hentry⟩
  obtain ⟨lists', hlists'⟩ := (hl.exists_loadFiles_iff hfiles turns w).mpr hgives
  have hregistered := hl.registered_loadFiles hfiles turns hlists'
  rw [hworld] at hregistered
  obtain rfl : lists' = lists :=
    List.right_unique_forall₂' (fun _ _ _ hx hy => Option.some.inj (hx.symm.trans hy))
      hregistered h
  exact Prod.ext hlists' hworld

end Files

/-- A load finds lists that are registered while all files are fresh, and changes nothing. -/
theorem IsRegular.loadInTurns_of_registered (hl : l.IsRegular) {lists : List RegisteredList}
    (h : List.Forall₂ (fun s list => w.registry.get? s.key = some list) l.sources lists) {now : Int}
    (hfresh : ∀ s ∈ l.sources, l.HasFreshFile w.disk now s)
    (fileTurns : Turns CacheFile ListBuilder.fileStages)
    (sourceTurns : Turns Source Refresher.stages) (network : Network) :
    l.loadInTurns fileTurns sourceTurns network now false w = (.ok lists, w) := by
  obtain ⟨files, hcheck⟩ := l.exists_check_iff.mpr hfresh
  have hfiles := l.check_eq_some_iff.mp hcheck
  have hload := hl.loadFiles_of_registered (isFileOf_of_isFreshFile hfiles) fileTurns h
  exact (l.loadBy_eq_fromFiles _ _ hfiles (congrArg Prod.fst hload)).trans hload

theorem IsRegular.load_of_registered (hl : l.IsRegular) {lists : List RegisteredList}
    (h : List.Forall₂ (fun s list => w.registry.get? s.key = some list) l.sources lists) {now : Int}
    (hfresh : ∀ s ∈ l.sources, l.HasFreshFile w.disk now s) (network : Network) :
    l.load network now false w = (.ok lists, w) := by
  rw [l.load_eq_loadInTurns network now hl.nodup]
  exact hl.loadInTurns_of_registered h hfresh _ _ network

/-- Files are compiled where no list of their sources is registered. -/
theorem IsRegular.loadFiles_of_texts (hl : l.IsRegular)
    (hfiles : List.Forall₂ l.IsFileOf l.sources files) {lists : List RegisteredList}
    (htexts : List.Forall₂ (fun s list => ∃ text,
      w.disk.readText (.text (l.cache.path s.identifier)) = .ok text ∧
        CompiledList.compile s.key text = .ok list.list) l.sources lists)
    (hnone : ∀ s ∈ l.sources, w.registry.get? s.key = none)
    (turns : Turns CacheFile ListBuilder.fileStages) :
    ∃ lists' registry, l.loadFilesInTurns turns files w = (.ok lists', { w with registry }) ∧
      lists'.map (·.list) = lists.map (·.list) := by
  have hall : List.Forall₂ (fun f list => f.outcome w = .ok list.list) files lists := by
    have hsources := (List.forall₂_and_left _ _).mpr ⟨hnone, htexts⟩
    refine forall₂_of_common hfiles hsources fun s f list hf ⟨hmissing, text, hread, hcompile⟩ => ?_
    rw [← hf.path] at hread
    rw [← hf.key_eq] at hmissing hcompile
    exact (CacheFile.outcome_eq_ok_iff hmissing).mpr ⟨text, hread, hcompile⟩
  have hgives : ∀ f ∈ files, ∃ list, f.outcome w = .ok list := by
    intro f hf
    obtain ⟨list, _, hlist⟩ := exists_of_forall₂ hall hf
    exact ⟨list.list, hlist⟩
  obtain ⟨lists', hlists'⟩ := (hl.exists_loadFiles_iff hfiles turns w).mpr hgives
  obtain ⟨hdisk, hrequests⟩ := l.loadFilesInTurns_frame turns files w
  refine ⟨lists', (l.loadFilesInTurns turns files w).2.registry, Prod.ext hlists' ?_,
    map_list_eq (hl.outcome_of_loadFiles hfiles turns hlists') hall⟩
  rw [← hdisk, ← hrequests]

/-- Lists are only had from the registry in memory under keys that it accepts. -/
theorem isValid_of_serves (hregistry : l.builder.registry = some .memory) {order : List CacheFile}
    (h : l.Serves w order f) : Key.isValid f.key = true := by
  cases hvalid : Key.isValid f.key with
  | true => rfl
  | false =>
    have hlookup : ∀ registry, ∃ e, l.builder.lookup f.identifier registry = (.error e, registry) :=
      ListBuilder.lookup_memory_of_invalid hregistry hvalid
    obtain ⟨registry, found, hfound⟩ :
        ∃ registry found, (l.builder.lookup f.identifier registry).1 = .ok found := by
      cases h with
      | registered _ _ _ hlookup => exact ⟨_, _, hlookup⟩
      | compiled _ _ _ _ _ _ _ hlookup => exact ⟨_, _, hlookup⟩
    obtain ⟨e, hrefused⟩ := hlookup registry
    rw [hrefused] at hfound
    cases hfound

/-- However the files of the sources take turns, what comes out of them, and the lists that are
registered in the end, are the same but for serial numbers, and nothing else is changed. -/
theorem loadFiles_any_order [UrlChecker] (hmemory : l.builder.registry = some .memory)
    (hmade : ∀ s ∈ l.sources, Source.make s.identifier s.location = .ok s)
    (hsources : Source.checkAll l.sources = .ok ())
    (hfiles : List.Forall₂ l.IsFileOf l.sources files)
    (turns : Turns CacheFile ListBuilder.fileStages) (w : World Registry) :
    (l.loadFilesInTurns turns files w).1.map (·.map (·.list)) =
        (l.loadFiles files w).1.map (·.map (·.list)) ∧
      (∀ key, ((l.loadFilesInTurns turns files w).2.registry.get? key).map (·.list) =
        ((l.loadFiles files w).2.registry.get? key).map (·.list)) ∧
      (l.loadFilesInTurns turns files w).2.disk = w.disk ∧
      (l.loadFilesInTurns turns files w).2.requests = w.requests := by
  have hl := isRegular_of_make hmemory hmade hsources
  obtain ⟨hdisk, hrequests⟩ := l.loadFilesInTurns_frame turns files w
  refine ⟨?_, fun key => ?_, hdisk, hrequests⟩
  · have hiff := (hl.exists_loadFiles_iff hfiles turns w).trans
      (hl.exists_loadFiles_iff hfiles (.beginTogether 2) w).symm
    cases hlists : (l.loadFilesInTurns turns files w).1 with
    | ok lists =>
      obtain ⟨lists', hlists'⟩ := hiff.mp ⟨lists, hlists⟩
      rw [loadFiles, hlists']
      exact congrArg Except.ok (map_list_eq (hl.outcome_of_loadFiles hfiles turns hlists)
        (hl.outcome_of_loadFiles hfiles (.beginTogether 2) hlists'))
    | error e =>
      cases hlists' : (l.loadFilesInTurns (.beginTogether 2) files w).1 with
      | ok lists' =>
        obtain ⟨lists, hok⟩ := hiff.mpr ⟨lists', hlists'⟩
        cases hlists.symm.trans hok
      | error e' =>
        rw [loadFiles, hlists', eq_notFound_of_allLists hlists, eq_notFound_of_allLists hlists']
  · by_cases hkey : key ∈ files.map CacheFile.key
    · obtain ⟨f, hf, rfl⟩ := List.mem_map.mp hkey
      rw [hl.get?_loadFiles hfiles turns hf w]
      exact (hl.get?_loadFiles hfiles (.beginTogether 2) hf w).symm
    · rw [map_key_of_isFileOf hfiles] at hkey
      have hne : ∀ s ∈ l.sources, s.key ≠ key :=
        fun s hs heq => hkey (List.mem_map.mpr ⟨s, hs, heq⟩)
      rw [hl.get?_loadFiles_of_ne hfiles turns hne w]
      exact congrArg _ (hl.get?_loadFiles_of_ne hfiles (.beginTogether 2) hne w).symm

end Loader

end ContentBlocker
