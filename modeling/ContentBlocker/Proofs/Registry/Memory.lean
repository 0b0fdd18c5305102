import ContentBlocker.Proofs.Rule.Checking
import ContentBlocker.Registry.ListBuilder

/-!
# The registry in memory

A list that is compiled has the key that it is compiled under, and has a rule. In the registry in
memory, looking up changes nothing, compiling puts a list in place of the one with its key or
changes nothing, and removing takes out what has the key.
-/

namespace ContentBlocker

variable [FilterReader]

/-! ### Compiled lists -/

theorem CompiledList.identifier_of_compile {key encoded : String} {list : CompiledList}
    (h : CompiledList.compile key encoded = .ok list) : list.identifier = key :=
  (isOf_of_compile h).1

/-- A list that has been compiled has a rule. -/
theorem CompiledList.rules_ne_nil_of_compile {key encoded : String} {list : CompiledList}
    (h : compile key encoded = .ok list) : list.rules ≠ [] := by
  obtain ⟨_, _, rules, _, hne, hall⟩ := isOf_of_compile h
  intro hnil
  rw [hnil, List.forall₂_nil_right_iff] at hall
  exact hne hall

/-! ### Requests -/

omit [FilterReader] in
theorem Registry.identifier_of_get? {r : Registry} {key : String} {entry : RegisteredList}
    (h : r.get? key = some entry) : entry.list.identifier = key := by
  have hfound := List.find?_some h
  simpa using hfound

/-- Compiling under a key registers a list in place of the one with the key, or leaves everything as
it was. -/
theorem Registry.compile_cases {key : String} (hkey : Key.isValid key = true) (encoded : String)
    (r : Registry) :
    (∃ list, CompiledList.compile key encoded = .ok list ∧
      r.compile key encoded = (.ok ⟨r.next, list⟩, r.insert list)) ∨
    ∃ e, CompiledList.compile key encoded = .error e ∧ r.compile key encoded = (.error e, r) := by
  unfold compile withKey
  rw [if_pos hkey]
  cases CompiledList.compile key encoded with
  | ok list => exact .inl ⟨list, rfl, rfl⟩
  | error e => exact .inr ⟨e, rfl, rfl⟩

namespace ListBuilder

variable {b : ListBuilder Registry} (hb : b.registry = some .memory) {identifier : String}

include hb

theorem lookup_memory (hkey : Key.isValid (Key.ofIdentifier identifier) = true) (r : Registry) :
    b.lookup identifier r = (.ok (r.get? (Key.ofIdentifier identifier)), r) := by
  unfold lookup ask
  rw [hb]
  simp only [RegistryService.memory, Registry.lookup, Registry.withKey, hkey]
  rfl

theorem lookup_memory_of_invalid (hkey : Key.isValid (Key.ofIdentifier identifier) = false)
    (r : Registry) : ∃ e, b.lookup identifier r = (.error e, r) := by
  unfold lookup ask
  rw [hb]
  simp only [RegistryService.memory, Registry.lookup, Registry.withKey, hkey]
  exact ⟨_, rfl⟩

/-- Compiling registers a list in place of the one with its key, or leaves everything as it was. -/
theorem compile_memory (hkey : Key.isValid (Key.ofIdentifier identifier) = true)
    (encoded : String) (r : Registry) :
    (∃ list, CompiledList.compile (Key.ofIdentifier identifier) encoded = .ok list ∧
      b.compile identifier encoded r = (.ok ⟨r.next, list⟩, r.insert list)) ∨
    ∃ e, CompiledList.compile (Key.ofIdentifier identifier) encoded = .error e ∧
      b.compile identifier encoded r = (.error (.registry e), r) := by
  unfold compile ask
  rw [hb]
  rcases r.compile_cases hkey encoded with ⟨list, hlist, hcompile⟩ | ⟨e, herror, hcompile⟩
  · refine .inl ⟨list, hlist, ?_⟩
    simp only [RegistryService.memory, hcompile]
    rfl
  · refine .inr ⟨e, herror, ?_⟩
    simp only [RegistryService.memory, hcompile]
    rfl

/-- A list that has been compiled is registered under the key of its identifier. -/
theorem get?_compile_self (hkey : Key.isValid (Key.ofIdentifier identifier) = true)
    {encoded : String} {r : Registry} {entry : RegisteredList}
    (h : (b.compile identifier encoded r).1 = .ok entry) :
    (b.compile identifier encoded r).2.get? (Key.ofIdentifier identifier) = some entry := by
  rcases compile_memory hb hkey encoded r with ⟨list, hlist, hcompile⟩ | ⟨e, _, hcompile⟩
  · rw [hcompile] at h ⊢
    obtain rfl := Except.ok.inj h
    rw [Registry.get?_insert, if_pos (CompiledList.identifier_of_compile hlist).symm]
  · rw [hcompile] at h
    cases h

/-- Compiling a list registers nothing under other keys. -/
theorem get?_compile_of_ne (hkey : Key.isValid (Key.ofIdentifier identifier) = true)
    {key : String} (hne : key ≠ Key.ofIdentifier identifier) (encoded : String) (r : Registry) :
    (b.compile identifier encoded r).2.get? key = r.get? key := by
  rcases compile_memory hb hkey encoded r with ⟨list, hlist, hcompile⟩ | ⟨e, _, hcompile⟩
  · rw [hcompile, Registry.get?_insert, CompiledList.identifier_of_compile hlist, if_neg hne]
  · rw [hcompile]

/-- Removing a list takes out what has its key, and nothing else. -/
theorem remove_memory (hkey : Key.isValid (Key.ofIdentifier identifier) = true) (r : Registry) :
    b.remove identifier r = (.ok (r.get? (Key.ofIdentifier identifier)).isSome,
      r.erase (Key.ofIdentifier identifier)) := by
  unfold remove ask
  rw [hb]
  simp only [RegistryService.memory, Registry.remove, Registry.withKey, hkey]
  rfl

end ListBuilder

end ContentBlocker
