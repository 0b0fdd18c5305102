import ContentBlocker.Filter.List
import ContentBlocker.Loader.Turns
import ContentBlocker.Loader.World
import ContentBlocker.Source

/-!
# Refreshing a source

A source is refreshed in four stages: its list is fetched, translated, written to the cache and
compiled. The stages of one source follow each other; those of different sources may take turns in
any order. An error ends the refresh of its source, except that a list which cannot be written is
compiled all the same.
-/

namespace ContentBlocker

/-- How far the refresh of a source has come. -/
inductive Progress where
  | waiting
  | fetched (lines : List String)
  | translated (encoded : String)
  | written (encoded : String)
  | finished (result : Except Error RegisteredList)

namespace Progress

/-- What has come out of a refresh. One that has not finished has failed. -/
def result : Progress → Except Error RegisteredList
  | .finished result => result
  | _ => .error .notFound

/-- How many stages are behind. -/
def rank : Progress → Nat
  | .waiting => 0
  | .fetched _ => 1
  | .translated _ => 2
  | .written _ => 3
  | .finished _ => 4

end Progress

/-- What refreshing needs, apart from the world. -/
structure Refresher (σ : Type) where
  cache : Cache
  builder : ListBuilder σ
  network : Network
  /-- The present, in nanoseconds. -/
  now : Int

namespace Refresher

variable {σ : Type}

/-- Fetches the list of a source. -/
def fetch (r : Refresher σ) (s : Source) (w : World σ) : Progress × World σ :=
  let w := { w with requests := s.location :: w.requests }
  match Filter.fetch r.network s.location with
  | .ok lines => (.fetched lines, w)
  | .error e => (.finished (.error e), w)

/-- Translates the lines of a list. -/
def translate (r : Refresher σ) (lines : List String) : Progress :=
  match r.builder.translate lines with
  | .ok encoded => .translated encoded
  | .error e => .finished (.error e)

/-- Writes the list of a source to the cache, if it can be written. -/
def write (r : Refresher σ) (s : Source) (encoded : String) (w : World σ) : Progress × World σ :=
  let (_, w) := w.onDisk fun d => r.cache.write d r.now s.identifier encoded
  (.written encoded, w)

/-- Compiles the list of a source. -/
def compile (r : Refresher σ) (s : Source) (encoded : String) (w : World σ) :
    Progress × World σ :=
  let (result, w) := w.onRegistry (r.builder.compile s.identifier encoded)
  (.finished result, w)

/-- The next stage in the refresh of a source. -/
def step (r : Refresher σ) (s : Source) : Progress → World σ → Progress × World σ
  | .waiting, w => r.fetch s w
  | .fetched lines, w => (r.translate lines, w)
  | .translated encoded, w => r.write s encoded w
  | .written encoded, w => r.compile s encoded w
  | .finished result, w => (.finished result, w)

/-- Several stages in the refresh of a source. -/
def steps (r : Refresher σ) (s : Source) : Nat → Progress → World σ → Progress × World σ
  | 0, p, w => (p, w)
  | n + 1, p, w =>
    let (p, w) := r.step s p w
    r.steps s n p w

/-- How many stages there are. -/
def stages : Nat := 4

/-- Refreshes a source. -/
def refresh (r : Refresher σ) (s : Source) (w : World σ) :
    Except Error RegisteredList × World σ :=
  let (p, w) := r.steps s stages .waiting w
  (p.result, w)

/-- Every turn of a source completes a stage, until all are. -/
theorem rank_step (r : Refresher σ) (s : Source) (p : Progress) (w : World σ) :
    min stages (p.rank + 1) ≤ (r.step s p w).1.rank := by
  cases p with
  | waiting =>
    unfold step fetch
    dsimp only
    split <;> simp [Progress.rank, stages]
  | fetched lines =>
    unfold step translate
    dsimp only
    split <;> simp [Progress.rank, stages]
  | translated encoded => simp [step, write, Progress.rank, stages]
  | written encoded => simp [step, compile, Progress.rank, stages]
  | finished result => simp [step, Progress.rank, stages]

/-- The stages in which sources are refreshed. -/
def pipeline (r : Refresher σ) : Pipeline Source Progress (World σ) where
  waiting := .waiting
  step := r.step
  stages := stages
  rank := Progress.rank
  rank_step := r.rank_step

end Refresher

end ContentBlocker
