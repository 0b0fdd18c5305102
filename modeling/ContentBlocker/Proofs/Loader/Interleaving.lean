import ContentBlocker.Proofs.Disk.CacheWrites
import ContentBlocker.Proofs.Loader.Results
import ContentBlocker.Proofs.Loader.Turns

/-!
# Refreshing in any order

The sources of a loader are refreshed stage by stage, and their stages may take turns in any order
(`Refresher.run`). What comes out does not depend on the order (`Loader.refresh_any_order`): the
results, the disk and the lists that are registered are those of refreshing one source after the
other. A source that fails leaves its list, and its file if it gives no text, as they were, and one
that succeeds has its own new list, whatever happens to the others (`Refresher.StaysLocal`).

At every moment the disk is the one from the start with the texts of some sources written, and the
registry differs from the one at the start only in the lists of sources that have succeeded
(`Loader.UnderWay`). Both are given by how far each source has come, in which no source depends
on another.
-/

namespace ContentBlocker

section AnyReader

variable [FilterReader]

namespace Refresher

/-! ### What a stage does -/

variable (r : Refresher Registry) {s : Source} {p : Progress} {w : World Registry}

/-- What comes out of the refresh of a source, but for the serial number of its list. -/
def outcome (s : Source) : Except Error CompiledList := do
  let lines ← Filter.fetch r.network s.location
  let encoded ← r.builder.translate lines
  (CompiledList.compile s.key encoded).mapError .registry

/-- Whether a source can have come so far. -/
def IsOf (s : Source) : Progress → Prop
  | .waiting => True
  | .fetched lines => Filter.fetch r.network s.location = .ok lines
  | .translated encoded => r.encoded? s = some encoded
  | .written encoded => r.encoded? s = some encoded
  | .finished result => result.map (·.list) = r.outcome s

/-- The text that is written for a source, behind its identifier. -/
def text (s : Source) : String × String :=
  (s.identifier, (r.encoded? s).getD "")

variable {r}

theorem outcome_eq_ok_iff {list : CompiledList} : r.outcome s = .ok list ↔ r.Gives s list := by
  unfold outcome Gives
  cases Filter.fetch r.network s.location with
  | error e => simp [bind, Except.bind]
  | ok lines =>
    cases htranslate : r.builder.translate lines with
    | error e => simp [htranslate, bind, Except.bind]
    | ok encoded =>
      cases hcompile : CompiledList.compile s.key encoded with
      | error e => simp [htranslate, hcompile, bind, Except.bind, Except.mapError]
      | ok other => simp [htranslate, hcompile, bind, Except.bind, Except.mapError]

theorem outcome_of_encoded {encoded : String} (h : r.encoded? s = some encoded) :
    r.outcome s = (CompiledList.compile s.key encoded).mapError .registry := by
  obtain ⟨lines, hfetch, htranslate⟩ := r.encoded?_eq_some_iff.mp h
  simp [outcome, hfetch, htranslate, bind, Except.bind]

omit [FilterReader] in
theorem text_of_encoded {encoded : String} (h : r.encoded? s = some encoded) :
    r.text s = (s.identifier, encoded) := by
  rw [text, h]
  rfl

variable (r) in
/-- What a stage of a source may do: nothing that others can see, the source being done only if it
was before or has failed; writing its text; or registering its list. -/
inductive Does (s : Source) (w : World Registry) : Progress → Progress → World Registry → Prop
  | quiet {p p' : Progress} {requests : List String} (hisOf : r.IsOf s p')
      (hwritten : (r.encoded? s).isSome → p'.isWritten = p.isWritten)
      (hfinished : ∀ entry, p' = .finished (.ok entry) ↔ p = .finished (.ok entry)) :
      Does s w p p' { w with requests }
  | write {encoded : String} (hencoded : r.encoded? s = some encoded) :
      Does s w (.translated encoded) (.written encoded)
        { w with disk := (r.cache.write w.disk r.now s.identifier encoded).2 }
  | register {encoded : String} {list : CompiledList} (hgives : r.Gives s list) :
      Does s w (.written encoded) (.finished (.ok ⟨w.registry.next, list⟩))
        { w with registry := w.registry.insert list }

theorem step_does (hregistry : r.builder.registry = some .memory)
    (hkey : Key.isValid s.key = true) (hp : r.IsOf s p) (w : World Registry) :
    r.Does s w p (r.step s p w).1 (r.step s p w).2 := by
  cases p with
  | waiting =>
    cases hfetch : Filter.fetch r.network s.location with
    | ok lines =>
      have hstep : r.step s .waiting w =
          (.fetched lines, { w with requests := s.location :: w.requests }) := by
        simp [step, fetch, hfetch]
      rw [hstep]
      exact .quiet hfetch (fun _ => rfl) (by simp)
    | error e =>
      have hstep : r.step s .waiting w =
          (.finished (.error e), { w with requests := s.location :: w.requests }) := by
        simp [step, fetch, hfetch]
      have houtcome : r.outcome s = .error e := by
        simp [outcome, hfetch, bind, Except.bind]
      rw [hstep]
      refine .quiet houtcome.symm (fun hsome => ?_) (by simp)
      simp [encoded?, hfetch] at hsome
  | fetched lines =>
    have hlines : Filter.fetch r.network s.location = .ok lines := hp
    cases htranslate : r.builder.translate lines with
    | ok encoded =>
      have hstep : r.step s (.fetched lines) w = (.translated encoded, w) := by
        simp [step, translate, htranslate]
      have hencoded := r.encoded?_eq_some_iff.mpr ⟨lines, hlines, htranslate⟩
      rw [hstep]
      exact .quiet hencoded (fun _ => rfl) (by simp)
    | error e =>
      have hstep : r.step s (.fetched lines) w = (.finished (.error e), w) := by
        simp [step, translate, htranslate]
      have houtcome : r.outcome s = .error e := by
        simp [outcome, hlines, htranslate, bind, Except.bind]
      rw [hstep]
      refine .quiet houtcome.symm (fun hsome => ?_) (by simp)
      simp [encoded?, hlines, htranslate, Except.toOption] at hsome
  | translated encoded => exact .write hp
  | written encoded =>
    have hencoded : r.encoded? s = some encoded := hp
    have houtcome := outcome_of_encoded hencoded
    rcases ListBuilder.compile_memory hregistry hkey encoded w.registry with
      ⟨list, hlist, hcompile⟩ | ⟨e, herror, hcompile⟩
    · have hstep : r.step s (.written encoded) w =
          (.finished (.ok ⟨w.registry.next, list⟩),
            { w with registry := w.registry.insert list }) := by
        simp [step, compile, World.onRegistry, hcompile]
      rw [hstep]
      exact .register (gives_iff.mpr ⟨encoded, hencoded, hlist⟩)
    · have hstep : r.step s (.written encoded) w = (.finished (.error (.registry e)), w) := by
        simp [step, compile, World.onRegistry, hcompile]
      have herror' : CompiledList.compile s.key encoded = .error e := herror
      rw [herror'] at houtcome
      rw [hstep]
      exact .quiet houtcome.symm (fun _ => rfl) (by simp)
  | finished result => exact .quiet hp (fun _ => rfl) fun _ => Iff.rfl

end Refresher

namespace Loader

/-! ### The invariant -/

variable {l : Loader Registry} {r : Refresher Registry} {w : World Registry}
  {st : Refreshing Registry} {done : List Source}

variable (l) in
/-- How the world follows from how far the sources have come, if refreshing them started in another
world: the texts of the sources in a list have been written, and of those that have succeeded the new
lists are registered. -/
structure UnderWay (r : Refresher Registry) (w : World Registry) (st : Refreshing Registry)
    (done : List Source) : Prop where
  isOf : ∀ s, r.IsOf s (st.progress s)
  mem : ∀ s, st.progress s ≠ .waiting → s ∈ l.sources
  nodup : done.Nodup
  mem_done : ∀ s, s ∈ done ↔ (st.progress s).isWritten ∧ (r.encoded? s).isSome
  disk : st.world.disk = r.cache.writes r.now w.disk (done.map r.text)
  registered : ∀ s entry, st.progress s = .finished (.ok entry) →
    st.world.registry.get? s.key = some entry ∧ w.registry.next ≤ entry.serial
  others : ∀ key, (∀ s entry, st.progress s = .finished (.ok entry) → s.key ≠ key) →
    st.world.registry.get? key = w.registry.get? key
  next_le : w.registry.next ≤ st.world.registry.next

theorem underWay_start : l.UnderWay r w (Refresher.start w) [] where
  isOf _ := trivial
  mem _ h := absurd rfl h
  nodup := .nil
  mem_done s := by simp [Refresher.start, Progress.isWritten]
  disk := rfl
  registered s entry h := by cases h
  others _ _ := rfl
  next_le := Nat.le_refl _

section Turn

variable (h : l.UnderWay r w st done) {s : Source} (hs : s ∈ l.sources)

include h hs

theorem UnderWay.mem_set {p : Progress} {w' : World Registry} (x : Source) :
    (st.set p w' s).progress x ≠ .waiting → x ∈ l.sources :=
  st.forall_set p w' (motive := fun x p => p ≠ .waiting → x ∈ l.sources) h.mem (fun _ => hs) x

omit hs in
theorem UnderWay.isOf_set {p : Progress} {w' : World Registry} (hp : r.IsOf s p) (x : Source) :
    r.IsOf x ((st.set p w' s).progress x) :=
  st.forall_set p w' (motive := r.IsOf) h.isOf hp x

theorem UnderWay.quiet {p : Progress} (requests : List String) (hp : r.IsOf s p)
    (hwritten : (r.encoded? s).isSome → p.isWritten = (st.progress s).isWritten)
    (hfinished : ∀ entry, p = .finished (.ok entry) ↔ st.progress s = .finished (.ok entry)) :
    l.UnderWay r w (st.set p { st.world with requests } s) done := by
  have hsame := st.finished_set_iff p { st.world with requests } hfinished
  refine ⟨h.isOf_set hp, h.mem_set hs, h.nodup, fun x => ?_, h.disk, fun x entry hx => ?_,
    fun key hkey => ?_, h.next_le⟩
  · rw [h.mem_done]
    by_cases hxs : x = s
    · rw [hxs, st.progress_set_self]
      exact and_congr_left fun hsome => by rw [hwritten hsome]
    · rw [st.progress_set_of_ne _ _ hxs]
  · exact h.registered x entry ((hsame x entry).mp hx)
  · exact h.others key fun x entry hx => hkey x entry ((hsame x entry).mpr hx)

theorem UnderWay.write {encoded : String} (hp : st.progress s = .translated encoded)
    (hencoded : r.encoded? s = some encoded) :
    l.UnderWay r w (st.set (.written encoded)
      { st.world with disk := (r.cache.write st.world.disk r.now s.identifier encoded).2 } s)
      (done ++ [s]) := by
  have hfresh : s ∉ done := by
    rw [h.mem_done, hp]
    simp [Progress.isWritten]
  have hsame := fun w' => st.finished_set_iff (.written encoded) w' (s := s) (by simp [hp])
  refine ⟨h.isOf_set hencoded, h.mem_set hs, ?_, fun x => ?_, ?_, fun x entry hx => ?_,
    fun key hkey => ?_, h.next_le⟩
  · exact List.nodup_append_comm.mp (List.nodup_cons.mpr ⟨hfresh, h.nodup⟩)
  · rw [List.mem_append, List.mem_singleton, h.mem_done]
    by_cases hxs : x = s
    · simp [hxs, Progress.isWritten, hencoded]
    · simp [hxs, st.progress_set_of_ne _ _ hxs]
  · rw [List.map_append, List.map_singleton, Refresher.text_of_encoded hencoded,
      Cache.writes_concat, ← h.disk]
    rfl
  · exact h.registered x entry ((hsame _ x entry).mp hx)
  · exact h.others key fun x entry hx => hkey x entry ((hsame _ x entry).mpr hx)

theorem UnderWay.register (hl : l.IsRegular) {encoded : String} {list : CompiledList}
    (hp : st.progress s = .written encoded) (hgives : r.Gives s list) :
    l.UnderWay r w (st.set (.finished (.ok ⟨st.world.registry.next, list⟩))
      { st.world with registry := st.world.registry.insert list } s) done := by
  have hlist : list.identifier = s.key := by
    obtain ⟨_, _, _, _, hcompile⟩ := hgives
    exact CompiledList.identifier_of_compile hcompile
  have hfinished : r.IsOf s (.finished (.ok ⟨st.world.registry.next, list⟩)) :=
    (Refresher.outcome_eq_ok_iff.mpr hgives).symm
  refine ⟨h.isOf_set hfinished, h.mem_set hs, h.nodup, fun x => ?_, h.disk, fun x entry hx => ?_,
    fun key hkey => ?_, Nat.le_succ_of_le h.next_le⟩
  · rw [h.mem_done]
    by_cases hxs : x = s
    · rw [hxs, st.progress_set_self, hp]
      rfl
    · rw [st.progress_set_of_ne _ _ hxs]
  · rw [st.world_set, Registry.get?_insert, hlist]
    by_cases hxs : x = s
    · subst hxs
      rw [st.progress_set_self] at hx
      cases hx
      exact ⟨if_pos rfl, h.next_le⟩
    · -- the list of another source that has succeeded has another key
      rw [st.progress_set_of_ne _ _ hxs] at hx
      have hmem : x ∈ l.sources := h.mem x (by simp [hx])
      rw [if_neg fun hkey => hxs (hl.eq_of_key_eq hmem hs hkey)]
      exact h.registered x entry hx
  · have hne : s.key ≠ key := hkey s _ (st.progress_set_self ..)
    rw [st.world_set, Registry.get?_insert, hlist, if_neg (Ne.symm hne)]
    refine h.others key fun x entry hx => ?_
    have hxs : x ≠ s := by
      rintro rfl
      rw [hp] at hx
      cases hx
    exact hkey x entry (by rw [st.progress_set_of_ne _ _ hxs, hx])

/-- Every turn keeps the world in step with the sources. -/
theorem UnderWay.turn (hl : l.IsRegular) (hregistry : r.builder.registry = some .memory) :
    ∃ done', l.UnderWay r w (r.pipeline.turn st s) done' := by
  have hdoes := Refresher.step_does hregistry (hl.valid s hs) (h.isOf s) st.world
  show ∃ done', l.UnderWay r w (st.set (r.step s (st.progress s) st.world).1
    (r.step s (st.progress s) st.world).2 s) done'
  generalize hp : st.progress s = p at hdoes ⊢
  generalize r.step s p st.world = next at hdoes ⊢
  obtain ⟨p', w'⟩ := next
  dsimp only at hdoes ⊢
  cases hdoes with
  | quiet hp' hwritten hfinished =>
    subst hp
    exact ⟨done, h.quiet hs _ hp' hwritten hfinished⟩
  | write hencoded => exact ⟨done ++ [s], h.write hs hp hencoded⟩
  | register hgives => exact ⟨done, h.register hs hl hp hgives⟩

end Turn

theorem UnderWay.run (hl : l.IsRegular) (hregistry : r.builder.registry = some .memory)
    {schedule : List Source} (hschedule : schedule ⊆ l.sources) (h : l.UnderWay r w st done) :
    ∃ done', l.UnderWay r w (r.run schedule st) done' :=
  r.pipeline.run_induction (motive := fun st => ∃ done, l.UnderWay r w st done)
    (fun _ _ hs ⟨_, hst⟩ => hst.turn hs hl hregistry) hschedule ⟨done, h⟩

/-! ### When all sources are done -/

theorem UnderWay.subset (h : l.UnderWay r w st done) : done ⊆ l.sources := by
  intro s hs
  obtain ⟨hwritten, _⟩ := (h.mem_done s).mp hs
  refine h.mem s fun hwaiting => ?_
  rw [hwaiting] at hwritten
  cases hwritten

theorem UnderWay.mem_done_iff (h : l.UnderWay r w st done) (hfinished : st.HasFinished l.sources)
    (s : Source) : s ∈ done ↔ s ∈ l.sources ∧ (r.encoded? s).isSome := by
  constructor
  · intro hs
    exact ⟨h.subset hs, ((h.mem_done s).mp hs).2⟩
  · rintro ⟨hs, hsome⟩
    obtain ⟨result, hresult⟩ := hfinished s hs
    exact (h.mem_done s).mpr ⟨by rw [hresult]; rfl, hsome⟩

/-- A source that gives a list has come to it, and it is registered. -/
theorem UnderWay.registered_of_gives (h : l.UnderWay r w st done)
    (hfinished : st.HasFinished l.sources) {s : Source} (hs : s ∈ l.sources) {list : CompiledList}
    (hgives : r.Gives s list) : ∃ serial, w.registry.next ≤ serial ∧
      st.progress s = .finished (.ok ⟨serial, list⟩) ∧
      st.world.registry.get? s.key = some ⟨serial, list⟩ := by
  obtain ⟨result, hresult⟩ := hfinished s hs
  have hisOf := h.isOf s
  rw [hresult, Refresher.IsOf, Refresher.outcome_eq_ok_iff.mpr hgives] at hisOf
  cases result with
  | error e => cases hisOf
  | ok entry =>
    obtain ⟨serial, list'⟩ := entry
    obtain rfl : list' = list := Except.ok.inj hisOf
    obtain ⟨hget, hnew⟩ := h.registered s _ hresult
    exact ⟨serial, hnew, hresult, hget⟩

/-- What is registered under no key of a source that gives a list is what was before. -/
theorem UnderWay.get?_of_not_gives (h : l.UnderWay r w st done) {key : String}
    (hkey : ∀ s ∈ l.sources, s.key = key → ∀ list, ¬r.Gives s list) :
    st.world.registry.get? key = w.registry.get? key := by
  refine h.others key fun s entry hentry heq => ?_
  have hs : s ∈ l.sources := h.mem s (by simp [hentry])
  have hisOf := h.isOf s
  rw [hentry] at hisOf
  exact hkey s hs heq entry.list (Refresher.outcome_eq_ok_iff.mp hisOf.symm)

theorem IsRegular.arePlain (hl : l.IsRegular) {d : Disk}
    (hplain : ∀ s ∈ l.sources, r.cache.IsPlain d s.identifier) {sources : List Source}
    (hsources : sources ⊆ l.sources) : r.cache.ArePlain d ((sources.map r.text).map (·.1)) := by
  intro identifier hmem
  rw [List.map_map] at hmem
  obtain ⟨s, hs, rfl⟩ := List.mem_map.mp hmem
  exact ⟨slash_not_mem_of_isValid (hl.valid s (hsources hs)), hplain s (hsources hs)⟩

theorem IsRegular.arePlain_cons (hl : l.IsRegular) {d : Disk}
    (hplain : ∀ s ∈ l.sources, r.cache.IsPlain d s.identifier) {s : Source} (hs : s ∈ l.sources)
    {sources : List Source} (hsources : sources ⊆ l.sources) :
    r.cache.ArePlain d (s.identifier :: (sources.map r.text).map (·.1)) :=
  hl.arePlain hplain (List.cons_subset.mpr ⟨hs, hsources⟩)

theorem IsRegular.nodup_texts (hl : l.IsRegular) {sources : List Source}
    (hsources : sources ⊆ l.sources) (hnodup : sources.Nodup) :
    ((sources.map r.text).map (·.1)).Nodup := by
  rw [List.map_map]
  refine hnodup.map_on fun s hs s' hs' heq => ?_
  have hid : s.identifier = s'.identifier := heq
  exact hl.eq_of_key_eq (hsources hs) (hsources hs') (by unfold Source.key; rw [hid])

/-- Whether the refreshes of sources have come out with the results and the world that another way
to refresh them gives, but for the serial numbers of lists. -/
structure EndsAs (sources : List Source) (st : Refreshing Registry)
    (results : List (Except Error RegisteredList)) (w : World Registry) : Prop where
  results : (sources.map fun s => (st.progress s).result.map (·.list)) =
    results.map (·.map (·.list))
  start : st.world.disk.start = w.disk.start
  items : ∀ place, st.world.disk.get? place = w.disk.get? place
  lists : ∀ key, (st.world.registry.get? key).map (·.list) =
    (w.registry.get? key).map (·.list)

/-- Two ways to refresh all sources come to the same end. -/
theorem UnderWay.endsAs (hl : l.IsRegular)
    (hplain : ∀ s ∈ l.sources, r.cache.IsPlain w.disk s.identifier)
    (h : l.UnderWay r w st done) (hfinished : st.HasFinished l.sources)
    {st' : Refreshing Registry} {done' : List Source} (h' : l.UnderWay r w st' done')
    (hfinished' : st'.HasFinished l.sources) :
    EndsAs l.sources st (l.sources.map fun s => (st'.progress s).result) st'.world where
  results := by
    rw [List.map_map]
    refine List.map_congr_left fun s hs => ?_
    obtain ⟨result, hresult⟩ := hfinished s hs
    obtain ⟨result', hresult'⟩ := hfinished' s hs
    have hisOf := h.isOf s
    have hisOf' := h'.isOf s
    rw [hresult] at hisOf
    rw [hresult'] at hisOf'
    rw [Function.comp_apply, hresult, hresult']
    exact hisOf.trans hisOf'.symm
  start := by rw [h.disk, h'.disk, Cache.start_writes, Cache.start_writes]
  items place := by
    have hsame : ∀ s, s ∈ done ↔ s ∈ done' := fun s => by
      rw [h.mem_done_iff hfinished, h'.mem_done_iff hfinished']
    rw [h.disk, h'.disk]
    refine Cache.get?_writes_congr (hl.arePlain hplain h.subset) (hl.nodup_texts h.subset h.nodup)
      (hl.nodup_texts h'.subset h'.nodup) (fun text => ?_) r.now place
    simp only [List.mem_map, hsame]
  lists key := by
    by_cases hgives : ∃ s ∈ l.sources, s.key = key ∧ ∃ list, r.Gives s list
    · obtain ⟨s, hs, rfl, list, hlist⟩ := hgives
      obtain ⟨_, _, _, hget⟩ := h.registered_of_gives hfinished hs hlist
      obtain ⟨_, _, _, hget'⟩ := h'.registered_of_gives hfinished' hs hlist
      rw [hget, hget']
      rfl
    · have hnone : ∀ s ∈ l.sources, s.key = key → ∀ list, ¬r.Gives s list :=
        fun s hs hkey list hlist => hgives ⟨s, hs, hkey, list, hlist⟩
      rw [h.get?_of_not_gives hnone, h'.get?_of_not_gives hnone]

end Loader

/-- Whether the refresh of a source in turn with others changes what is its own and nothing else,
whatever happens to the others. -/
structure Refresher.StaysLocal (r : Refresher Registry) (schedule : List Source)
    (w : World Registry) (s : Source) : Prop where
  /-- A source that gives no text keeps its file. -/
  file : r.encoded? s = none →
    w.disk.KeepsFile (r.run schedule (start w)).world.disk (.text (r.cache.path s.identifier))
  /-- A source that gives no list keeps the one that is registered. -/
  list : (∀ list, ¬r.Gives s list) →
    (r.run schedule (start w)).world.registry.get? s.key = w.registry.get? s.key
  /-- A source that gives a list has it registered, as a new one. -/
  newList : ∀ list, r.Gives s list → ∃ serial, w.registry.next ≤ serial ∧
    (r.run schedule (start w)).progress s = .finished (.ok ⟨serial, list⟩) ∧
    (r.run schedule (start w)).world.registry.get? s.key = some ⟨serial, list⟩
  /-- A text that could be written at any moment is in the file at the end. -/
  newFile : ∀ encoded, r.encoded? s = some encoded → ∀ earlier, earlier <+: schedule →
    ∀ path, (r.cache.write (r.run earlier (start w)).world.disk r.now s.identifier encoded).1 =
      .ok path →
    (r.run schedule (start w)).world.disk.readFile (.text (r.cache.path s.identifier)) =
      .ok (.text encoded, r.now)

namespace Loader

variable {l : Loader Registry} {r : Refresher Registry} {w : World Registry}

theorem IsRegular.staysLocal (hl : l.IsRegular) (hregistry : r.builder.registry = some .memory)
    (hplain : ∀ s ∈ l.sources, r.cache.IsPlain w.disk s.identifier) {schedule : List Source}
    (hschedule : schedule ⊆ l.sources)
    (hfinished : (r.run schedule (Refresher.start w)).HasFinished l.sources) {s : Source}
    (hs : s ∈ l.sources) : r.StaysLocal schedule w s := by
  obtain ⟨done, h⟩ := underWay_start.run (r := r) (w := w) hl hregistry hschedule
  refine ⟨fun hnone => ?_, fun hnone => ?_, fun list hlist => ?_, ?_⟩
  · have hfresh : s ∉ done := by
      rw [h.mem_done_iff hfinished, hnone]
      simp
    have hboth : s :: done ⊆ l.sources := List.cons_subset.mpr ⟨hs, h.subset⟩
    have hnodup := hl.nodup_texts (r := r) hboth (List.nodup_cons.mpr ⟨hfresh, h.nodup⟩)
    rw [h.disk]
    exact Cache.keepsFile_writes (hl.arePlain_cons hplain hs h.subset)
      (List.nodup_cons.mp hnodup).1 r.now
  · refine h.get?_of_not_gives fun other hother hkey => ?_
    rwa [hl.eq_of_key_eq hother hs hkey]
  · exact h.registered_of_gives hfinished hs hlist
  · rintro encoded hencoded earlier ⟨later, rfl⟩ path hwrite
    obtain ⟨early, hearly⟩ := underWay_start.run (r := r) (w := w) hl hregistry
      (List.append_subset.mp hschedule).1
    -- where the text could be written then is where it has been or will be written
    obtain ⟨place, htarget⟩ := Cache.exists_target_of_write hwrite
    rw [hearly.disk, Cache.target?_writes (hl.arePlain_cons hplain hs hearly.subset)] at htarget
    have hmem : (s.identifier, encoded) ∈ done.map r.text := by
      rw [← Refresher.text_of_encoded hencoded]
      exact List.mem_map_of_mem ((h.mem_done_iff hfinished s).mpr ⟨hs, by rw [hencoded]; rfl⟩)
    rw [h.disk]
    exact Cache.readFile_writes (hl.arePlain hplain h.subset) (hl.nodup_texts h.subset h.nodup)
      hmem htarget r.now

/-- However the sources of a loader take turns, they come to the end that refreshing one after the
other comes to, and each of them changes what is its own and nothing else. -/
theorem refresh_any_order [UrlChecker] (hmemory : l.builder.registry = some .memory)
    (hmade : ∀ s ∈ l.sources, Source.make s.identifier s.location = .ok s)
    (hsources : Source.checkAll l.sources = .ok ()) (network : Network) (now : Int)
    (hplain : ∀ s ∈ l.sources, l.cache.IsPlain w.disk s.identifier)
    {schedule : List Source} (hschedule : schedule ⊆ l.sources)
    (hfinished : ((l.refresher network now).run schedule (Refresher.start w)).HasFinished
      l.sources) :
    EndsAs l.sources ((l.refresher network now).run schedule (Refresher.start w))
        (w.forEach (l.refresher network now).refresh l.sources).1
        (w.forEach (l.refresher network now).refresh l.sources).2 ∧
      ∀ s ∈ l.sources, (l.refresher network now).StaysLocal schedule w s := by
  have hl := isRegular_of_make hmemory hmade hsources
  have hregistry : (l.refresher network now).builder.registry = some .memory := hmemory
  have hfiles : ∀ s ∈ l.sources, (l.refresher network now).cache.IsPlain w.disk s.identifier :=
    hplain
  generalize l.refresher network now = r at hfinished hregistry hfiles ⊢
  refine ⟨?_, fun s hs => hl.staysLocal hregistry hfiles hschedule hfinished hs⟩
  obtain ⟨done, h⟩ := underWay_start.run (r := r) (w := w) hl hregistry hschedule
  obtain ⟨done', h'⟩ := underWay_start.run (r := r) (w := w) hl hregistry
    ((Turns.oneByOne Refresher.stages).subset l.sources)
  have hfinished' := r.hasFinished_of_turns (.oneByOne Refresher.stages) l.sources w
  rw [r.forEach_refresh_start hl.nodup w]
  exact h.endsAs hl hfiles hfinished h' hfinished'

end Loader

end AnyReader

namespace Loader

/-- Two sources that take turns come to the end that refreshing one after the other comes to. -/
theorem refresh_any_order_of_pair :
    pair.builder.registry = some .memory ∧
      (∀ s ∈ pair.sources, Source.make s.identifier s.location = .ok s) ∧
      Source.checkAll pair.sources = .ok () ∧
      (∀ s ∈ pair.sources, pair.cache.IsPlain {} s.identifier) ∧
      ∃ schedule ⊆ pair.sources,
        ((pair.refresher (wildcards 2) 0).run schedule
          (Refresher.start { disk := {}, registry := {} })).HasFinished pair.sources ∧
        EndsAs pair.sources ((pair.refresher (wildcards 2) 0).run schedule
            (Refresher.start { disk := {}, registry := {} }))
          (World.forEach (pair.refresher (wildcards 2) 0).refresh pair.sources
            { disk := {}, registry := {} }).1
          (World.forEach (pair.refresher (wildcards 2) 0).refresh pair.sources
            { disk := {}, registry := {} }).2 ∧
        ∀ s ∈ pair.sources,
          (pair.refresher (wildcards 2) 0).StaysLocal schedule { disk := {}, registry := {} } s := by
  have hmade : ∀ s ∈ pair.sources, Source.make s.identifier s.location = .ok s := by
    intro s hs
    rcases List.mem_pair.mp hs with rfl | rfl <;> decide +kernel
  have hsources : Source.checkAll pair.sources = .ok () := by decide
  have hplain : ∀ s ∈ pair.sources, pair.cache.IsPlain {} s.identifier :=
    fun s _ => Cache.isPlain_of_noLinks Disk.noLinks_empty s.identifier
  -- forth and back, twice
  have hschedule : pair.sources ++ pair.sources.reverse ++ pair.sources ++ pair.sources.reverse ⊆
      pair.sources := by decide
  have hturns : ∀ s ∈ pair.sources, Refresher.stages ≤ (pair.sources ++ pair.sources.reverse ++
      pair.sources ++ pair.sources.reverse).count s := by decide
  have hfinished := fun s hs => (pair.refresher (wildcards 2) 0).finished_of_count (hturns s hs)
    { disk := {}, registry := {} }
  exact ⟨rfl, hmade, hsources, hplain, _, hschedule, hfinished,
    refresh_any_order rfl hmade hsources (wildcards 2) 0 hplain hschedule hfinished⟩

end Loader

end ContentBlocker
