import ContentBlocker.Loader.Files
import ContentBlocker.Loader.Refresh
import ContentBlocker.Settings

/-!
# Loading lists

A loader gets the lists of all its sources, from the cache or from the network. While every file is
fresh, lists come from the registry or are compiled from their files. If any file is not, or any list
cannot be had that way, or the cache is not to be used, all sources are refreshed, once. If any of
them fails then, so does the whole load.

Files are loaded at the same time, and so are sources refreshed: their stages may take turns in any
order (`Loader.loadInTurns`). The program looks up the lists of all files first and then goes on file
by file, and it refreshes one source after the other (`Loader.load`).
-/

namespace ContentBlocker

/-- Gets the lists of sources. -/
structure Loader (σ : Type) where
  sources : List Source
  cache : Cache
  builder : ListBuilder σ
  /-- How long the status of a file in the cache is fresh. -/
  retention : Nanoseconds
  /-- Files are told as fresh for as long as they are used. -/
  retention_eq : retention = cache.retention

/-- The state of a file in the cache. -/
structure CacheFileStatus where
  file : CacheFile
  age : Nanoseconds
  isFresh : Bool
  deriving DecidableEq, Repr

namespace Loader

variable {σ : Type}

/-- The loader with some settings, if its sources can be told apart. -/
def make (settings : Settings) (sources : List Source) (translator : Translator)
    (registry : Option (RegistryService σ)) : Except Error (Loader σ) := do
  Source.checkAll sources
  return {
    sources
    cache := .ofSettings settings
    builder := {
      translator, registry, limit := settings.ruleLimit, optimize := settings.optimize }
    retention := settings.retention
    retention_eq := rfl }

/-- What refreshes the sources. -/
def refresher (l : Loader σ) (network : Network) (now : Int) : Refresher σ :=
  { cache := l.cache, builder := l.builder, network, now }

/-- All lists, or that some were not found. -/
def allLists (results : List (Except Error RegisteredList)) : Except Error (List RegisteredList) :=
  match results.mapM Except.toOption with
  | some lists => .ok lists
  | none => .error .notFound

/-- The lists of files that take turns. -/
def loadFilesInTurns (l : Loader σ) (turns : Turns CacheFile ListBuilder.fileStages)
    (files : List CacheFile) (w : World σ) : Except Error (List RegisteredList) × World σ :=
  let P := l.builder.filePipeline
  let st := P.run (turns.order files) (P.start w)
  (allLists (files.map fun f => (st.progress f).result), st.world)

/-- The lists of files, all looked up first. -/
def loadFiles (l : Loader σ) (files : List CacheFile) (w : World σ) :
    Except Error (List RegisteredList) × World σ :=
  l.loadFilesInTurns (.beginTogether 2) files w

/-- The lists of all sources from the network, if the sources take turns. -/
def refreshInTurns (l : Loader σ) (turns : Turns Source Refresher.stages) (network : Network)
    (now : Int) (w : World σ) : Except Error (List RegisteredList) × World σ :=
  let P := (l.refresher network now).pipeline
  let st := P.run (turns.order l.sources) (P.start w)
  (allLists (l.sources.map fun s => (st.progress s).result), st.world)

/-- The lists of all sources from the network. -/
def refreshSources (l : Loader σ) (network : Network) (now : Int) (w : World σ) :
    Except Error (List RegisteredList) × World σ :=
  let (results, w) := w.forEach (l.refresher network now).refresh l.sources
  (allLists results, w)

/-- The lists of all sources in their order, given how files are loaded and sources refreshed. The
cache is used unless `force` is given. -/
def loadBy (l : Loader σ)
    (fromFiles : List CacheFile → World σ → Except Error (List RegisteredList) × World σ)
    (refresh : World σ → Except Error (List RegisteredList) × World σ) (now : Int) (force : Bool)
    (w : World σ) : Except Error (List RegisteredList) × World σ :=
  let files? :=
    if force then none else l.cache.check w.disk now (l.sources.map (·.identifier))
  match files? with
  | none => refresh w
  | some files =>
    match fromFiles files w with
    | (.ok lists, w) => (.ok lists, w)
    -- What the failed attempt has compiled stays in the registry until it is replaced.
    | (.error _, w) => refresh w

/-- The lists of all sources, if files and sources take turns. -/
def loadInTurns (l : Loader σ) (fileTurns : Turns CacheFile ListBuilder.fileStages)
    (sourceTurns : Turns Source Refresher.stages) (network : Network) (now : Int) (force : Bool)
    (w : World σ) : Except Error (List RegisteredList) × World σ :=
  l.loadBy (l.loadFilesInTurns fileTurns) (l.refreshInTurns sourceTurns network now) now force w

/-- The lists of all sources. -/
def load (l : Loader σ) (network : Network) (now : Int) (force : Bool) (w : World σ) :
    Except Error (List RegisteredList) × World σ :=
  l.loadBy l.loadFiles (l.refreshSources network now) now force w

/-- The state of every file in the cache. -/
def status (l : Loader σ) (now : Int) (w : World σ) : Except Error (List CacheFileStatus) :=
  match l.cache.files w.disk with
  | .error e => .error (.disk e)
  | .ok files =>
    .ok (files.map fun file =>
      let age := file.age now
      { file, age, isFresh := age < l.retention })

/-- Removes all files from the cache, and the lists of the sources from the registry. Tells how many
files there were. -/
def clear (l : Loader σ) (w : World σ) : Except Error Nat × World σ :=
  match w.onDisk l.cache.clear with
  | (.error e, w) => (.error (.disk e), w)
  | (.ok count, w) =>
    -- A list that cannot be removed is left, and the files are gone all the same.
    let (_, w) := w.forEach (fun s w => w.onRegistry (l.builder.remove s.identifier)) l.sources
    (.ok count, w)

end Loader

end ContentBlocker
