import ContentBlocker.Registry.Key
import ContentBlocker.Rule.Compiled

/-!
# The registry

The registry keeps compiled lists by key. Compiling a list registers it in place of the one that had
its key; when it cannot be compiled, everything stays as it was.

Every registered list has a serial number that no other list has had, so it can be seen whether a
list is the same one as before or was compiled again from the same text.
-/

namespace ContentBlocker

/-- A list in the registry. -/
structure RegisteredList where
  serial : Nat
  list : CompiledList
  deriving DecidableEq, Repr

/-- The lists that have been compiled. The identifier of each is its key. -/
structure Registry where
  lists : List RegisteredList := []
  /-- The serial number of the next list. -/
  next : Nat := 0
  deriving DecidableEq, Repr

namespace Registry

/-- The list with a key. -/
def get? (r : Registry) (key : String) : Option RegisteredList :=
  r.lists.find? (·.list.identifier == key)

/-- The registry without the list that has a key. -/
def erase (r : Registry) (key : String) : Registry :=
  { r with lists := r.lists.filter (·.list.identifier != key) }

/-- The registry with a list in place of the one that had its key. -/
def insert (r : Registry) (list : CompiledList) : Registry :=
  { lists := ⟨r.next, list⟩ :: (r.erase list.identifier).lists, next := r.next + 1 }

theorem get?_erase (r : Registry) (key other : String) :
    (r.erase key).get? other = if other = key then none else r.get? other := by
  unfold erase get?
  rw [List.find?_filter]
  split
  · rename_i h
    subst h
    rw [List.find?_eq_none]
    intro x _
    simp
  · rename_i h
    congr 1
    funext x
    by_cases hx : x.list.identifier = other <;> simp_all

theorem get?_insert (r : Registry) (list : CompiledList) (key : String) :
    (r.insert list).get? key =
      if key = list.identifier then some ⟨r.next, list⟩ else r.get? key := by
  have erased := get?_erase r list.identifier key
  unfold get? at erased ⊢
  rw [insert, List.find?_cons, erased]
  by_cases h : list.identifier = key
  · simp [h]
  · have : (list.identifier == key) = false := by simpa using h
    simp [this, Ne.symm h]

/-- The keys, sorted. -/
def keys (r : Registry) : List String :=
  (r.lists.map (·.list.identifier)).mergeSort (· ≤ ·)

/-- Does what is asked under a key, if it is one. -/
def withKey {α : Type} (key : String) (answer : Except RegistryError α) : Except RegistryError α :=
  if Key.isValid key then answer else .error (.invalidIdentifier key)

/-- Looks a key up. -/
def lookup (r : Registry) (key : String) : Except RegistryError (Option RegisteredList) :=
  withKey key (.ok (r.get? key))

/-- Compiles an encoded list and registers it. -/
def compile [FilterReader] (r : Registry) (key encoded : String) :
    Except RegistryError RegisteredList × Registry :=
  match withKey key (CompiledList.compile key encoded) with
  | .ok list => (.ok ⟨r.next, list⟩, r.insert list)
  | .error e => (.error e, r)

/-- Removes the list with a key. Tells whether there was one. -/
def remove (r : Registry) (key : String) : Except RegistryError Bool × Registry :=
  match withKey key (.ok (r.get? key).isSome) with
  | .ok found => (.ok found, r.erase key)
  | .error e => (.error e, r)

end Registry

end ContentBlocker
