import ContentBlocker.Proofs.Registry.Memory
import Mathlib.Data.List.Nodup

/-!
# Histories of the registry in memory

After any requests the registry in memory is the map that its history tells of
(`Registry.isMap_run`): under a key stands the very list that the last successful compilation under
the key gave, unless that has been removed since (`Registry.Leaves`). A request that is refused or
fails changes nothing.

There are three things that a request does: it registers a list, it removes one, or it leaves the
registry as it is (`Registry.serve_cases`). That the registry follows from its history
(`Registry.Follows`) is kept in each case, and so holds after every run.
-/

namespace ContentBlocker

/-! ### Histories -/

/-- A request to a registry. -/
inductive RegistryRequest where
  | compile (key encoded : String)
  | lookup (key : String)
  | remove (key : String)
  | identifiers
  deriving DecidableEq, Repr

/-- A request to a registry together with the answer. -/
inductive RegistryEvent where
  | compiled (key encoded : String) (answer : Except Error RegisteredList)
  | lookedUp (key : String) (answer : Except Error (Option RegisteredList))
  | removed (key : String) (answer : Except Error Bool)
  | listed (answer : Except Error (List String))

namespace RegistryService

variable {σ : Type} (service : RegistryService σ)

/-- Puts a request to a registry. -/
def serve : RegistryRequest → σ → RegistryEvent × σ
  | .compile key encoded, s =>
    let (answer, s) := service.compile key encoded s
    (.compiled key encoded answer, s)
  | .lookup key, s =>
    let (answer, s) := service.lookup key s
    (.lookedUp key answer, s)
  | .remove key, s =>
    let (answer, s) := service.remove key s
    (.removed key answer, s)
  | .identifiers, s =>
    let (answer, s) := service.identifiers s
    (.listed answer, s)

/-- Puts requests to a registry, one after the other. Gives its history, last event first. -/
def run (s : σ) (requests : List RegistryRequest) : List RegistryEvent × σ :=
  requests.foldl (fun (events, s) request =>
    let (event, s) := service.serve request s
    (event :: events, s)) ([], s)

end RegistryService

namespace RegistryEvent

/-- Whether an event puts a list under a key, or takes one away. -/
def Replaces (key : String) : RegistryEvent → Prop
  | .compiled other _ (.ok _) => other = key
  | .removed other (.ok _) => other = key
  | _ => False

end RegistryEvent

namespace Key

/-- Whether a text is refused as a key. -/
def IsRefused (key : String) : Prop :=
  key = "" ∨ ∃ c ∈ key.toList, Text.isSpace c = true ∨ c = '/' ∨ c = '\\'

theorem isValid_eq_true_iff {key : String} : isValid key = true ↔ ¬IsRefused key := by
  unfold isValid IsRefused isSeparator
  rw [Bool.and_eq_true, List.all_eq_true, not_or]
  exact and_congr (by simp) (by simp)

end Key

namespace Registry

/-- Whether a history, given last event first, leaves a list under a key: the list was compiled
under the key, and no other has been since, nor has it been removed. -/
def Leaves (key : String) (entry : RegisteredList) (events : List RegistryEvent) : Prop :=
  ∃ since encoded before, events = since ++ .compiled key encoded (.ok entry) :: before ∧
    ∀ event ∈ since, ¬event.Replaces key

variable {key : String} {entry : RegisteredList} {event : RegistryEvent}
  {events : List RegistryEvent}

theorem not_leaves_nil : ¬Leaves key entry [] := by
  rintro ⟨since, encoded, before, hevents, _⟩
  cases since <;> cases hevents

theorem leaves_cons : Leaves key entry (event :: events) ↔
    (∃ encoded, event = .compiled key encoded (.ok entry)) ∨
      (¬event.Replaces key ∧ Leaves key entry events) := by
  constructor
  · rintro ⟨since, encoded, before, hevents, hsince⟩
    cases since with
    | nil => exact .inl ⟨encoded, (List.cons.inj hevents).1⟩
    | cons first since =>
      obtain ⟨rfl, rfl⟩ := List.cons.inj hevents
      exact .inr ⟨hsince _ (List.mem_cons_self ..), since, encoded, before, rfl,
        fun other hother => hsince other (List.mem_cons_of_mem _ hother)⟩
  · rintro (⟨encoded, rfl⟩ | ⟨hkept, since, encoded, before, rfl, hsince⟩)
    · exact ⟨[], encoded, events, rfl, by simp⟩
    · refine ⟨event :: since, encoded, before, rfl, fun other hother => ?_⟩
      rcases List.mem_cons.mp hother with rfl | hother
      · exact hkept
      · exact hsince other hother

/-! ### What a request does -/

variable {r : Registry}

section Requests

variable [FilterReader]

theorem memory_lookup (hkey : ¬Key.IsRefused key) (r : Registry) :
    RegistryService.memory.lookup key r = (.ok (r.get? key), r) := by
  simp only [RegistryService.memory, lookup, withKey, if_pos (Key.isValid_eq_true_iff.mpr hkey)]
  rfl

theorem memory_remove (hkey : ¬Key.IsRefused key) (r : Registry) :
    RegistryService.memory.remove key r = (.ok (r.get? key).isSome, r.erase key) := by
  simp only [RegistryService.memory, remove, withKey, if_pos (Key.isValid_eq_true_iff.mpr hkey)]
  rfl

theorem memory_compile (hkey : ¬Key.IsRefused key) (encoded : String) (r : Registry) :
    (∃ list, CompiledList.compile key encoded = .ok list ∧
      RegistryService.memory.compile key encoded r = (.ok ⟨r.next, list⟩, r.insert list)) ∨
    ∃ e, CompiledList.compile key encoded = .error e ∧
      RegistryService.memory.compile key encoded r = (.error (.registry e), r) := by
  rcases r.compile_cases (Key.isValid_eq_true_iff.mpr hkey) encoded with
    ⟨list, hlist, hcompile⟩ | ⟨e, herror, hcompile⟩
  · refine .inl ⟨list, hlist, ?_⟩
    simp only [RegistryService.memory, hcompile]
    rfl
  · refine .inr ⟨e, herror, ?_⟩
    simp only [RegistryService.memory, hcompile]
    rfl

/-- Under what is no key, all requests are refused and change nothing. -/
theorem memory_refused (hkey : Key.IsRefused key) (r : Registry) :
    (∀ encoded, RegistryService.memory.compile key encoded r =
      (.error (.registry (.invalidIdentifier key)), r)) ∧
    RegistryService.memory.lookup key r = (.error (.registry (.invalidIdentifier key)), r) ∧
    RegistryService.memory.remove key r = (.error (.registry (.invalidIdentifier key)), r) := by
  have hinvalid : ¬Key.isValid key = true := fun hvalid => Key.isValid_eq_true_iff.mp hvalid hkey
  simp only [RegistryService.memory, compile, lookup, remove, withKey, if_neg hinvalid]
  exact ⟨fun _ => rfl, rfl, rfl⟩

/-- A request registers a list, removes one, or leaves the registry as it is. -/
theorem serve_cases (request : RegistryRequest) (r : Registry) :
    (∃ key encoded list, ¬Key.IsRefused key ∧ CompiledList.compile key encoded = .ok list ∧
      RegistryService.memory.serve request r =
        (.compiled key encoded (.ok ⟨r.next, list⟩), r.insert list)) ∨
    (∃ key found, RegistryService.memory.serve request r =
      (.removed key (.ok found), r.erase key)) ∨
    ∃ event, RegistryService.memory.serve request r = (event, r) ∧ ∀ key, ¬event.Replaces key := by
  cases request with
  | compile key encoded =>
    rw [RegistryService.serve]
    by_cases hkey : Key.IsRefused key
    · rw [(memory_refused hkey r).1]
      exact .inr (.inr ⟨_, rfl, fun _ => id⟩)
    · rcases memory_compile hkey encoded r with ⟨list, hlist, hcompile⟩ | ⟨e, _, hcompile⟩
      · rw [hcompile]
        exact .inl ⟨key, encoded, list, hkey, hlist, rfl⟩
      · rw [hcompile]
        exact .inr (.inr ⟨_, rfl, fun _ => id⟩)
  | lookup key => exact .inr (.inr ⟨_, rfl, fun _ => id⟩)
  | remove key =>
    rw [RegistryService.serve]
    by_cases hkey : Key.IsRefused key
    · rw [(memory_refused hkey r).2.2]
      exact .inr (.inr ⟨_, rfl, fun _ => id⟩)
    · rw [memory_remove hkey]
      exact .inr (.inl ⟨key, _, rfl⟩)
  | identifiers => exact .inr (.inr ⟨_, rfl, fun _ => id⟩)

end Requests

theorem mem_insert {list : CompiledList} (h : entry ∈ (r.insert list).lists) :
    entry = ⟨r.next, list⟩ ∨ entry ∈ r.lists := by
  rcases List.mem_cons.mp h with h | h
  · exact .inl h
  · exact .inr (List.mem_of_mem_filter h)

theorem nodup_erase (h : (r.lists.map (·.list.identifier)).Nodup) (key : String) :
    ((r.erase key).lists.map (·.list.identifier)).Nodup :=
  h.sublist (List.filter_sublist.map _)

theorem nodup_insert (h : (r.lists.map (·.list.identifier)).Nodup) (list : CompiledList) :
    ((r.insert list).lists.map (·.list.identifier)).Nodup := by
  refine List.nodup_cons.mpr ⟨fun hmem => ?_, nodup_erase h list.identifier⟩
  obtain ⟨other, hother, hkey⟩ := List.mem_map.mp hmem
  have hne := (List.mem_filter.mp hother).2
  rw [bne_iff_ne] at hne
  exact hne hkey

/-! ### The invariant -/

/-- Whether a registry follows from a history that started with an empty one: it holds what the
history leaves, each list once, and the serial numbers of all lists so far are used up. -/
structure Follows (events : List RegistryEvent) (r : Registry) : Prop where
  distinct : (r.lists.map (·.list.identifier)).Nodup
  valid : ∀ entry ∈ r.lists, ¬Key.IsRefused entry.list.identifier
  rules : ∀ entry ∈ r.lists, entry.list.rules ≠ []
  leaves : ∀ key entry, r.get? key = some entry ↔ Leaves key entry events
  serials : ∀ key encoded entry, .compiled key encoded (.ok entry) ∈ events → entry.serial < r.next

theorem follows_empty : Follows [] {} where
  distinct := .nil
  valid := by simp
  rules := by simp
  leaves _ _ := iff_of_false (by simp [get?]) not_leaves_nil
  serials := by simp

theorem Follows.insert [FilterReader] (h : Follows events r) {encoded : String} {list : CompiledList}
    (hkey : ¬Key.IsRefused key) (hlist : CompiledList.compile key encoded = .ok list) :
    Follows (.compiled key encoded (.ok ⟨r.next, list⟩) :: events) (r.insert list) where
  distinct := nodup_insert h.distinct list
  valid entry hentry := by
    rcases mem_insert hentry with rfl | hentry
    · rwa [CompiledList.identifier_of_compile hlist]
    · exact h.valid entry hentry
  rules entry hentry := by
    rcases mem_insert hentry with rfl | hentry
    · exact CompiledList.rules_ne_nil_of_compile hlist
    · exact h.rules entry hentry
  leaves other entry := by
    rw [get?_insert, CompiledList.identifier_of_compile hlist, leaves_cons]
    by_cases hother : other = key
    · subst hother
      simp [RegistryEvent.Replaces, eq_comm]
    · simp [RegistryEvent.Replaces, hother, Ne.symm hother, h.leaves]
  serials other text entry hmem := by
    rcases List.mem_cons.mp hmem with heq | hmem
    · cases heq
      exact Nat.lt_succ_self _
    · exact Nat.lt_succ_of_lt (h.serials other text entry hmem)

theorem Follows.erase (h : Follows events r) (key : String) (found : Bool) :
    Follows (.removed key (.ok found) :: events) (r.erase key) where
  distinct := nodup_erase h.distinct key
  valid entry hentry := h.valid entry (List.mem_of_mem_filter hentry)
  rules entry hentry := h.rules entry (List.mem_of_mem_filter hentry)
  leaves other entry := by
    rw [get?_erase, leaves_cons]
    by_cases hother : other = key
    · simp [RegistryEvent.Replaces, hother]
    · simp [RegistryEvent.Replaces, hother, Ne.symm hother, h.leaves]
  serials other text entry hmem := by
    rcases List.mem_cons.mp hmem with heq | hmem
    · cases heq
    · exact h.serials other text entry hmem

theorem Follows.quiet (h : Follows events r) (hevent : ∀ key, ¬event.Replaces key) :
    Follows (event :: events) r where
  distinct := h.distinct
  valid := h.valid
  rules := h.rules
  leaves key entry := by
    rw [h.leaves, leaves_cons]
    refine ⟨fun hleaves => .inr ⟨hevent key, hleaves⟩, ?_⟩
    rintro (⟨encoded, rfl⟩ | ⟨_, hleaves⟩)
    · exact absurd rfl (hevent key)
    · exact hleaves
  serials key encoded entry hmem := by
    rcases List.mem_cons.mp hmem with rfl | hmem
    · exact absurd rfl (hevent key)
    · exact h.serials key encoded entry hmem

/-- Every request keeps the registry in step with its history. -/
theorem Follows.serve [FilterReader] (h : Follows events r) (request : RegistryRequest) :
    Follows ((RegistryService.memory.serve request r).1 :: events)
      (RegistryService.memory.serve request r).2 := by
  rcases serve_cases request r with ⟨key, encoded, list, hkey, hlist, hserve⟩ |
    ⟨key, found, hserve⟩ | ⟨event, hserve, hevent⟩
  · rw [hserve]
    exact h.insert hkey hlist
  · rw [hserve]
    exact h.erase key found
  · rw [hserve]
    exact h.quiet hevent

theorem follows_run [FilterReader] (requests : List RegistryRequest) :
    Follows (RegistryService.memory.run {} requests).1
      (RegistryService.memory.run {} requests).2 := by
  unfold RegistryService.run
  exact List.foldlRecOn (motive := fun (state : List RegistryEvent × Registry) =>
    Follows state.1 state.2) requests _ follows_empty fun _ h request _ => h.serve request

/-! ### Keys -/

theorem mem_keys_iff : key ∈ r.keys ↔ ∃ entry, r.get? key = some entry := by
  unfold keys get?
  rw [List.mem_mergeSort, List.mem_map, ← Option.isSome_iff_exists, List.find?_isSome]
  simp

/-- The keys are sorted. -/
theorem Follows.pairwise_keys (h : Follows events r) : r.keys.Pairwise (· < ·) := by
  have hdistinct : ((r.lists.map (·.list.identifier)).map id).Nodup := by
    rw [List.map_id]
    exact h.distinct
  have hsorted := Text.pairwise_mergeSort id hdistinct
  rwa [List.map_id] at hsorted

/-! ### Maps -/

variable [FilterReader]

/-- Whether a registry with a history is a map from keys to lists, which every request changes in
full or not at all. -/
structure IsMap (events : List RegistryEvent) (r : Registry) : Prop where
  /-- Requests under what is no key are refused, and change nothing. -/
  refuses : ∀ key, Key.IsRefused key →
    (∀ encoded, RegistryService.memory.compile key encoded r =
      (.error (.registry (.invalidIdentifier key)), r)) ∧
    RegistryService.memory.lookup key r = (.error (.registry (.invalidIdentifier key)), r) ∧
    RegistryService.memory.remove key r = (.error (.registry (.invalidIdentifier key)), r)
  /-- Under a key, lists are given for the texts that compile. -/
  compiles : ∀ key encoded list, ¬Key.IsRefused key →
    ((∃ serial, (RegistryService.memory.compile key encoded r).1 = .ok ⟨serial, list⟩) ↔
      CompiledList.compile key encoded = .ok list)
  /-- A compilation that fails changes nothing. -/
  keeps : ∀ key encoded e, (RegistryService.memory.compile key encoded r).1 = .error e →
    (RegistryService.memory.compile key encoded r).2 = r
  /-- A list that is compiled is not the same as any before. -/
  isNew : ∀ key encoded entry, (RegistryService.memory.compile key encoded r).1 = .ok entry →
    ∀ other text earlier, .compiled other text (.ok earlier) ∈ events →
      earlier.serial ≠ entry.serial
  /-- A key is looked up as the list that the history leaves under it. -/
  lookups : ∀ key, ¬Key.IsRefused key → ∃ found?,
    RegistryService.memory.lookup key r = (.ok found?, r) ∧
      ∀ entry, found? = some entry ↔ Leaves key entry events
  /-- Whether a list was there is told when it is removed, and other keys keep theirs. -/
  removes : ∀ key, ¬Key.IsRefused key → ∃ found,
    (RegistryService.memory.remove key r).1 = .ok found ∧
      (found = true ↔ ∃ entry, (RegistryService.memory.lookup key r).1 = .ok (some entry)) ∧
      ∀ other, other ≠ key →
        (RegistryService.memory.lookup other (RegistryService.memory.remove key r).2).1 =
          (RegistryService.memory.lookup other r).1
  /-- The keys that lists are found under are given in order. -/
  identifiers : ∃ keys, RegistryService.memory.identifiers r = (.ok keys, r) ∧
    keys.Pairwise (· < ·) ∧
    ∀ key, key ∈ keys ↔ ∃ entry, (RegistryService.memory.lookup key r).1 = .ok (some entry)
  /-- What is found under a key is a list with that key and with a rule. -/
  stored : ∀ key entry, (RegistryService.memory.lookup key r).1 = .ok (some entry) →
    entry.list.identifier = key ∧ entry.list.rules ≠ []

/-- What is found stands under a key. -/
theorem Follows.lookup_eq_some_iff (h : Follows events r) :
    (RegistryService.memory.lookup key r).1 = .ok (some entry) ↔ r.get? key = some entry := by
  by_cases hkey : Key.IsRefused key
  · rw [(memory_refused hkey r).2.1]
    refine iff_of_false (by simp) fun hentry => ?_
    have hvalid := h.valid entry (List.mem_of_find?_eq_some hentry)
    rw [identifier_of_get? hentry] at hvalid
    exact hvalid hkey
  · rw [memory_lookup hkey]
    simp

theorem lookup_erase {other : String} (hother : other ≠ key) (r : Registry) :
    (RegistryService.memory.lookup other (r.erase key)).1 =
      (RegistryService.memory.lookup other r).1 := by
  by_cases hrefused : Key.IsRefused other
  · rw [(memory_refused hrefused _).2.1, (memory_refused hrefused _).2.1]
  · rw [memory_lookup hrefused, memory_lookup hrefused, get?_erase, if_neg hother]

theorem Follows.isMap (h : Follows events r) : IsMap events r where
  refuses key hkey := memory_refused hkey r
  compiles key encoded list hkey := by
    rcases memory_compile hkey encoded r with ⟨other, hlist, hcompile⟩ | ⟨e, herror, hcompile⟩
    · simp [hcompile, hlist]
    · simp [hcompile, herror]
  keeps key encoded e herror := by
    by_cases hkey : Key.IsRefused key
    · rw [(memory_refused hkey r).1]
    · rcases memory_compile hkey encoded r with ⟨list, _, hcompile⟩ | ⟨_, _, hcompile⟩
      · rw [hcompile] at herror
        cases herror
      · rw [hcompile]
  isNew key encoded entry hentry other text earlier hmem := by
    have hlt := h.serials other text earlier hmem
    by_cases hkey : Key.IsRefused key
    · rw [(memory_refused hkey r).1] at hentry
      cases hentry
    · rcases memory_compile hkey encoded r with ⟨list, _, hcompile⟩ | ⟨_, _, hcompile⟩
      · rw [hcompile] at hentry
        cases hentry
        exact Nat.ne_of_lt hlt
      · rw [hcompile] at hentry
        cases hentry
  lookups key hkey := ⟨_, memory_lookup hkey r, h.leaves key⟩
  removes key hkey := by
    rw [memory_remove hkey]
    refine ⟨_, rfl, ?_, fun other hother => lookup_erase hother r⟩
    rw [Option.isSome_iff_exists]
    exact exists_congr fun entry => h.lookup_eq_some_iff.symm
  identifiers := by
    refine ⟨_, rfl, h.pairwise_keys, fun key => ?_⟩
    rw [mem_keys_iff]
    exact exists_congr fun entry => h.lookup_eq_some_iff.symm
  stored key entry hentry := by
    have hget := h.lookup_eq_some_iff.mp hentry
    exact ⟨identifier_of_get? hget, h.rules entry (List.mem_of_find?_eq_some hget)⟩

/-- After any requests the registry in memory is the map that its history tells of. -/
theorem isMap_run (requests : List RegistryRequest) :
    IsMap (RegistryService.memory.run {} requests).1 (RegistryService.memory.run {} requests).2 :=
  (follows_run requests).isMap

end Registry

end ContentBlocker
