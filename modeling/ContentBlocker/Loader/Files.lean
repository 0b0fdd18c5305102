import ContentBlocker.Loader.Turns
import ContentBlocker.Loader.World

/-!
# Loading a file

The list of a file in the cache is had in three stages: it is looked up in the registry, and if it is
missing there, the file is read and its text compiled. An error ends the load of its file. The stages
of one file follow each other; those of different files may take turns in any order.
-/

namespace ContentBlocker

/-- How far the load of a file has come. -/
inductive FileProgress where
  | waiting
  /-- The list has not been found in the registry. -/
  | missed
  | read (encoded : String)
  | finished (result : Except Error RegisteredList)

namespace FileProgress

/-- What has come out of a load. One that has not finished has failed. -/
def result : FileProgress → Except Error RegisteredList
  | .finished result => result
  | _ => .error .notFound

/-- How many stages are behind. -/
def rank : FileProgress → Nat
  | .waiting => 0
  | .missed => 1
  | .read _ => 2
  | .finished _ => 3

/-- How far a file has come that has been looked up. -/
def ofLookup : Except Error (Option RegisteredList) → FileProgress
  | .error e => .finished (.error e)
  | .ok (some list) => .finished (.ok list)
  | .ok none => .missed

/-- How far a file has come that has been read. -/
def ofRead : Except DiskError String → FileProgress
  | .error e => .finished (.error (.disk e))
  | .ok encoded => .read encoded

end FileProgress

namespace ListBuilder

variable {σ : Type} (b : ListBuilder σ)

/-- Looks up the list of a file. -/
def lookUpFile (f : CacheFile) (w : World σ) : FileProgress × World σ :=
  let (found, w) := w.onRegistry (b.lookup f.identifier)
  (.ofLookup found, w)

/-- Reads the text in a file. -/
def readFile (f : CacheFile) (w : World σ) : FileProgress × World σ :=
  (.ofRead (Cache.read w.disk f), w)

/-- Compiles the text of a file. -/
def compileFile (f : CacheFile) (encoded : String) (w : World σ) : FileProgress × World σ :=
  let (result, w) := w.onRegistry (b.compile f.identifier encoded)
  (.finished result, w)

/-- The next stage in the load of a file. -/
def fileStep (f : CacheFile) : FileProgress → World σ → FileProgress × World σ
  | .waiting, w => b.lookUpFile f w
  | .missed, w => readFile f w
  | .read encoded, w => b.compileFile f encoded w
  | .finished result, w => (.finished result, w)

/-- How many stages there are. -/
def fileStages : Nat := 3

/-- Every turn of a file completes a stage, until all are. -/
theorem rank_fileStep (f : CacheFile) (p : FileProgress) (w : World σ) :
    min fileStages (p.rank + 1) ≤ (b.fileStep f p w).1.rank := by
  cases p with
  | waiting =>
    simp only [fileStep, lookUpFile, FileProgress.ofLookup]
    split <;> simp [FileProgress.rank, fileStages]
  | missed =>
    simp only [fileStep, readFile, FileProgress.ofRead]
    split <;> simp [FileProgress.rank, fileStages]
  | read encoded => simp [fileStep, compileFile, FileProgress.rank, fileStages]
  | finished result => simp [fileStep, FileProgress.rank, fileStages]

/-- The stages in which files are loaded. -/
def filePipeline : Pipeline CacheFile FileProgress (World σ) where
  waiting := .waiting
  step := b.fileStep
  stages := fileStages
  rank := FileProgress.rank
  rank_step := b.rank_fileStep

end ListBuilder

end ContentBlocker
