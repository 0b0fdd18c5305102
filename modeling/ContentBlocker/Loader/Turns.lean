/-!
# Taking turns

Several items go through the same stages and share a world (`Pipeline`). The stages of one item follow
each other; those of different items may take turns in any order (`Pipeline.run`). A way to take turns
(`Turns`) gives every item as many as there are stages, so that all items come to their end.
-/

namespace ContentBlocker

/-- Stages that items of type `ι` go through. How far an item has come is of type `π`, and the world of
type `ω`. -/
structure Pipeline (ι π ω : Type) where
  /-- How far an item has come that has not begun. -/
  waiting : π
  /-- The next stage of an item. -/
  step : ι → π → ω → π × ω
  /-- How many stages there are. -/
  stages : Nat
  /-- How many stages are behind an item. -/
  rank : π → Nat
  /-- Every turn completes a stage, until all are. -/
  rank_step : ∀ i p w, min stages (rank p + 1) ≤ rank (step i p w).1

/-- Items on their way: how far each of them has come, and the world that they share. -/
structure Work (ι π ω : Type) where
  progress : ι → π
  world : ω

/-- One item has come on, and the world has changed. -/
def Work.set {ι π ω : Type} [DecidableEq ι] (st : Work ι π ω) (p : π) (w : ω) (i : ι) :
    Work ι π ω where
  progress j := if j = i then p else st.progress j
  world := w

namespace Pipeline

variable {ι π ω : Type} [DecidableEq ι] (P : Pipeline ι π ω)

/-- No item has begun. -/
def start (w : ω) : Work ι π ω where
  progress _ := P.waiting
  world := w

/-- The next stage of one item. -/
def turn (st : Work ι π ω) (i : ι) : Work ι π ω :=
  st.set (P.step i (st.progress i) st.world).1 (P.step i (st.progress i) st.world).2 i

/-- The next stages of items, one after the other. -/
def run (schedule : List ι) (st : Work ι π ω) : Work ι π ω :=
  schedule.foldl P.turn st

end Pipeline

/-- A way to take turns: an order for the turns of some items, in which each of them has so many at
least and nothing else has any. -/
structure Turns (ι : Type) [DecidableEq ι] (n : Nat) where
  order : List ι → List ι
  subset : ∀ items, order items ⊆ items
  le_count : ∀ items, ∀ i ∈ items, n ≤ (order items).count i

namespace Turns

theorem mem_of_mem_flatMap_replicate {ι : Type} {n : Nat} {items : List ι} {i : ι}
    (h : i ∈ items.flatMap (List.replicate n)) : i ∈ items := by
  obtain ⟨other, hother, hi⟩ := List.mem_flatMap.mp h
  rwa [List.eq_of_mem_replicate hi]

variable {ι : Type} [DecidableEq ι]

theorem le_count_flatMap_replicate (n : Nat) {items : List ι} {i : ι} (h : i ∈ items) :
    n ≤ (items.flatMap (List.replicate n)).count i := by
  have hsub : (List.replicate n i).Sublist (items.flatMap (List.replicate n)) := by
    obtain ⟨before, after, rfl⟩ := List.append_of_mem h
    rw [List.flatMap_append, List.flatMap_cons]
    exact (List.sublist_append_left ..).trans (List.sublist_append_right ..)
  have hcount := hsub.count_le i
  rwa [List.count_replicate_self] at hcount

/-- Every item has all its turns before the next one begins. -/
def oneByOne (n : Nat) : Turns ι n where
  order items := items.flatMap (List.replicate n)
  subset _ _ := mem_of_mem_flatMap_replicate
  le_count _ _ := le_count_flatMap_replicate n

/-- All items begin before any of them has a second turn. -/
def beginTogether (n : Nat) : Turns ι (n + 1) where
  order items := items ++ items.flatMap (List.replicate n)
  subset items := by
    intro i hi
    rcases List.mem_append.mp hi with hi | hi
    · exact hi
    · exact mem_of_mem_flatMap_replicate hi
  le_count items i hi := by
    have hrest := le_count_flatMap_replicate n hi
    have hfirst : 0 < items.count i := List.count_pos_iff.mpr hi
    rw [List.count_append]
    omega

end Turns

end ContentBlocker
