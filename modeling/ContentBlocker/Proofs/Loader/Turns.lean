import ContentBlocker.Loader.Basic
import Mathlib.Data.List.Nodup

/-!
# Runs of stages

What every turn preserves, a run preserves (`Pipeline.run_induction`), and an item that has had as many
turns as there are stages has come to its end (`Pipeline.rank_of_count`).

Refreshing one source after the other is one way to take turns (`Refresher.forEach_refresh_start`), so
that a load of the program is one in which files and sources take turns (`Loader.load_eq_loadInTurns`).
-/

namespace ContentBlocker

/-! ### Items on their way -/

namespace Work

variable {ι π ω : Type} [DecidableEq ι] (st : Work ι π ω) {i other : ι} (p : π) (w : ω)

@[simp]
theorem progress_set_self : (st.set p w i).progress i = p :=
  if_pos rfl

theorem progress_set_of_ne (h : other ≠ i) : (st.set p w i).progress other = st.progress other :=
  if_neg h

/-- What holds of how far every item has come holds when one has come on, if it holds of that one. -/
theorem forall_set {motive : ι → π → Prop} (h : ∀ j, motive j (st.progress j)) (hp : motive i p)
    (j : ι) : motive j ((st.set p w i).progress j) := by
  by_cases hj : j = i
  · subst hj
    rwa [progress_set_self]
  · rw [progress_set_of_ne _ _ _ hj]
    exact h j

@[simp]
theorem world_set : (st.set p w i).world = w := rfl

@[simp]
theorem set_set (p' : π) (w' : ω) : (st.set p' w' i).set p w i = st.set p w i := by
  unfold set
  congr 1
  funext j
  dsimp only
  split <;> rfl

/-- An item that has not come on is left as it is. -/
theorem set_self : st.set (st.progress i) st.world i = st := by
  obtain ⟨progress, world⟩ := st
  unfold set
  congr 1
  funext j
  dsimp only
  split
  · rename_i hj
    rw [hj]
  · rfl

end Work

namespace Pipeline

variable {ι π ω : Type} [DecidableEq ι] (P : Pipeline ι π ω) {st : Work ι π ω} {schedule : List ι}
  {i : ι}

theorem run_cons (i : ι) (schedule : List ι) (st : Work ι π ω) :
    P.run (i :: schedule) st = P.run schedule (P.turn st i) := rfl

theorem run_append (schedule schedule' : List ι) (st : Work ι π ω) :
    P.run (schedule ++ schedule') st = P.run schedule' (P.run schedule st) :=
  List.foldl_append

/-- What every turn of the items preserves, a run of them preserves. -/
theorem run_induction {motive : Work ι π ω → Prop} {items : List ι}
    (hturn : ∀ st, ∀ i ∈ items, motive st → motive (P.turn st i)) (hschedule : schedule ⊆ items)
    (h : motive st) : motive (P.run schedule st) :=
  List.foldlRecOn schedule _ h fun _ hst i hi => hturn _ i (hschedule hi) hst

/-- What no stage changes in the world, a run does not change. -/
theorem run_preserves {γ : Type} (view : ω → γ)
    (h : ∀ i p w, view (P.step i p w).2 = view w) (schedule : List ι) (st : Work ι π ω) :
    view (P.run schedule st).world = view st.world :=
  P.run_induction (motive := fun st' => view st'.world = view st.world)
    (fun st' i _ hst' => (h i (st'.progress i) st'.world).trans hst') (List.Subset.refl schedule) rfl

theorem progress_turn_self (st : Work ι π ω) (i : ι) :
    (P.turn st i).progress i = (P.step i (st.progress i) st.world).1 :=
  st.progress_set_self ..

theorem progress_turn_of_ne {other : ι} (h : other ≠ i) (st : Work ι π ω) :
    (P.turn st i).progress other = st.progress other :=
  st.progress_set_of_ne _ _ h

/-- An item without a turn stays where it is. -/
theorem progress_run_of_not_mem (h : i ∉ schedule) (st : Work ι π ω) :
    (P.run schedule st).progress i = st.progress i :=
  P.run_induction (motive := fun st' => st'.progress i = st.progress i)
    (fun st' j hj hst' => (P.progress_turn_of_ne (fun hij : i = j => h (hij ▸ hj)) st').trans hst')
    (List.Subset.refl schedule) rfl

/-- What an item does in its next turn. -/
theorem progress_run_next (h : i ∉ schedule) (st : Work ι π ω) :
    (P.run (schedule ++ [i]) st).progress i =
      (P.step i (st.progress i) (P.run schedule st).world).1 := by
  rw [run_append, run_cons]
  exact (P.progress_turn_self ..).trans (by rw [P.progress_run_of_not_mem h])

/-- An item that has come to its end stays there. -/
theorem progress_run_of_fixed {p : π} (hfixed : ∀ w, (P.step i p w).1 = p)
    (h : st.progress i = p) (schedule : List ι) : (P.run schedule st).progress i = p := by
  refine P.run_induction (motive := fun st' => st'.progress i = p) (fun st' j _ hst' => ?_)
    (List.Subset.refl schedule) h
  by_cases hj : i = j
  · subst hj
    rw [P.progress_turn_self, hst', hfixed]
  · rw [P.progress_turn_of_ne hj, hst']

theorem rank_run (i : ι) (schedule : List ι) (st : Work ι π ω) :
    min P.stages (P.rank (st.progress i) + schedule.count i) ≤
      P.rank ((P.run schedule st).progress i) := by
  induction schedule generalizing st with
  | nil => exact Nat.min_le_right ..
  | cons first schedule ih =>
    have hrest := ih (P.turn st first)
    rw [run_cons]
    by_cases hfirst : first = i
    · subst hfirst
      have hstep := P.rank_step first (st.progress first) st.world
      rw [progress_turn_self] at hrest
      rw [List.count_cons_self]
      omega
    · rw [P.progress_turn_of_ne (Ne.symm hfirst)] at hrest
      rwa [List.count_cons_of_ne hfirst]

/-- An item that has as many turns as there are stages has all of them behind. -/
theorem rank_of_count (h : P.stages ≤ schedule.count i) (w : ω) :
    P.stages ≤ P.rank ((P.run schedule (P.start w)).progress i) := by
  have hrank := P.rank_run i schedule (P.start w)
  omega

end Pipeline

/-- The next of the turns that an item has. -/
theorem exists_next_turn {ι : Type} [DecidableEq ι] {schedule : List ι} {i : ι}
    (h : 0 < schedule.count i) :
    ∃ before after, schedule = before ++ [i] ++ after ∧ i ∉ before ∧
      schedule.count i = after.count i + 1 := by
  obtain ⟨before, after, rfl, hbefore⟩ :=
    List.eq_append_cons_of_mem (List.count_pos_iff.mp h)
  refine ⟨before, after, by simp, hbefore, ?_⟩
  rw [List.count_append, List.count_cons_self, List.count_eq_zero.mpr hbefore, Nat.zero_add]

/-! ### Sources that are refreshed -/

namespace Progress

/-- Whether the stage is behind in which the list is written. -/
def isWritten : Progress → Bool
  | .written _ => true
  | .finished _ => true
  | _ => false

theorem finished_of_rank {p : Progress} (h : Refresher.stages ≤ p.rank) :
    ∃ result, p = .finished result := by
  cases p with
  | finished result => exact ⟨result, rfl⟩
  | _ => exact absurd h (by simp [rank, Refresher.stages])

end Progress

theorem FileProgress.finished_of_rank {p : FileProgress} (h : ListBuilder.fileStages ≤ p.rank) :
    ∃ result, p = .finished result := by
  cases p with
  | finished result => exact ⟨result, rfl⟩
  | _ => exact absurd h (by simp [rank, ListBuilder.fileStages])

/-- Sources that are being refreshed: how far each of them has come, and the world that they
share. -/
abbrev Refreshing (σ : Type) := Work Source Progress (World σ)

namespace Refreshing

variable {σ : Type} (st : Refreshing σ) {s : Source} (p : Progress) (w : World σ)

/-- Whether sources have been refreshed. -/
def HasFinished (sources : List Source) : Prop :=
  ∀ s ∈ sources, ∃ result, st.progress s = .finished result

/-- No other source has succeeded if this one has not, or had before. -/
theorem finished_set_iff
    (h : ∀ entry, p = .finished (.ok entry) ↔ st.progress s = .finished (.ok entry))
    (other : Source) (entry : RegisteredList) :
    (st.set p w s).progress other = .finished (.ok entry) ↔
      st.progress other = .finished (.ok entry) := by
  by_cases hother : other = s
  · rw [hother, st.progress_set_self, h]
  · rw [st.progress_set_of_ne p w hother]

end Refreshing

namespace Refresher

variable {σ : Type} (r : Refresher σ)

/-- No source has begun. -/
def start (w : World σ) : Refreshing σ where
  progress _ := .waiting
  world := w

/-- The next stages of sources, one after the other. -/
def run (schedule : List Source) (st : Refreshing σ) : Refreshing σ :=
  r.pipeline.run schedule st

/-- A source that has as many turns as there are stages is refreshed. -/
theorem finished_of_count {s : Source} {schedule : List Source} (h : stages ≤ schedule.count s)
    (w : World σ) : ∃ result, (r.run schedule (start w)).progress s = .finished result :=
  Progress.finished_of_rank (r.pipeline.rank_of_count h w)

/-- Sources that take turns are all refreshed. -/
theorem hasFinished_of_turns (turns : Turns Source stages) (sources : List Source) (w : World σ) :
    (r.run (turns.order sources) (start w)).HasFinished sources :=
  fun s hs => r.finished_of_count (turns.le_count sources s hs) w

/-- Taking all turns at once is refreshing a source on its own. -/
theorem run_replicate (s : Source) (n : Nat) (st : Refreshing σ) :
    r.run (List.replicate n s) st =
      st.set (r.steps s n (st.progress s) st.world).1 (r.steps s n (st.progress s) st.world).2 s := by
  induction n generalizing st with
  | zero => exact st.set_self.symm
  | succ n ih =>
    rw [List.replicate_succ, run, Pipeline.run_cons, ← run, ih]
    simp [Pipeline.turn, pipeline, steps]

/-- Refreshing one source after the other is one way to take turns. -/
theorem forEach_refresh {sources : List Source} (hnodup : sources.Nodup) {st : Refreshing σ}
    (hwaiting : ∀ s ∈ sources, st.progress s = .waiting) :
    st.world.forEach r.refresh sources =
      (sources.map fun s =>
          ((r.run ((Turns.oneByOne stages).order sources) st).progress s).result,
        (r.run ((Turns.oneByOne stages).order sources) st).world) := by
  induction sources generalizing st with
  | nil => rfl
  | cons s sources ih =>
    obtain ⟨hfresh, hnodup⟩ := List.nodup_cons.mp hnodup
    have hrun : r.run ((Turns.oneByOne stages).order (s :: sources)) st =
        r.run ((Turns.oneByOne stages).order sources) (r.run (List.replicate stages s) st) :=
      r.pipeline.run_append (List.replicate stages s) _ st
    have hfirst := r.run_replicate s stages st
    rw [hwaiting s (List.mem_cons_self ..)] at hfirst
    have hwait : ∀ other ∈ sources,
        (r.run (List.replicate stages s) st).progress other = .waiting := by
      intro other hother
      have hne : other ≠ s := fun heq => hfresh (heq ▸ hother)
      rw [hfirst, st.progress_set_of_ne _ _ hne, hwaiting other (List.mem_cons_of_mem s hother)]
    have hresult : ((r.run ((Turns.oneByOne stages).order sources)
        (r.run (List.replicate stages s) st)).progress s).result = (r.refresh s st.world).1 := by
      have hlater : s ∉ (Turns.oneByOne stages).order sources :=
        fun hmem => hfresh ((Turns.oneByOne stages).subset sources hmem)
      rw [run, r.pipeline.progress_run_of_not_mem hlater, hfirst, st.progress_set_self]
      rfl
    have hworld : (r.run (List.replicate stages s) st).world = (r.refresh s st.world).2 := by
      rw [hfirst]
      rfl
    show ((r.refresh s st.world).1 :: ((r.refresh s st.world).2.forEach r.refresh sources).1,
      ((r.refresh s st.world).2.forEach r.refresh sources).2) = _
    rw [hrun, List.map_cons, hresult, ← hworld, ih hnodup hwait]

theorem forEach_refresh_start {sources : List Source} (hnodup : sources.Nodup) (w : World σ) :
    w.forEach r.refresh sources =
      (sources.map fun s =>
          ((r.run ((Turns.oneByOne stages).order sources) (start w)).progress s).result,
        (r.run ((Turns.oneByOne stages).order sources) (start w)).world) := by
  have hwaiting : ∀ s ∈ sources, (start w).progress s = .waiting := fun _ _ => rfl
  exact r.forEach_refresh hnodup hwaiting

end Refresher

namespace Loader

variable {σ : Type} (l : Loader σ) (network : Network) (now : Int)

theorem refreshSources_eq_refreshInTurns (hnodup : l.sources.Nodup) :
    l.refreshSources network now = l.refreshInTurns (.oneByOne Refresher.stages) network now := by
  funext w
  unfold refreshSources
  rw [(l.refresher network now).forEach_refresh_start hnodup]
  rfl

/-- A load of the program is one in which files and sources take turns. -/
theorem load_eq_loadInTurns (hnodup : l.sources.Nodup) :
    l.load network now =
      l.loadInTurns (.beginTogether 2) (.oneByOne Refresher.stages) network now := by
  funext force w
  unfold load loadInTurns
  rw [l.refreshSources_eq_refreshInTurns network now hnodup]
  rfl

end Loader

end ContentBlocker
