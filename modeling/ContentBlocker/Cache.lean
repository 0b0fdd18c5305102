import ContentBlocker.Disk.Files
import ContentBlocker.Settings

/-!
# The cache

The cache is a directory with one file for each list: the encoded list in a file named for its
identifier. A file is fresh while it is younger than the retention; one that was changed in the
future has no age.

Lists are taken from the cache all together or not at all (`Cache.check`). Files whose names do not
come from an identifier are left alone.
-/

namespace ContentBlocker

/-- The file of a list in the cache. -/
structure CacheFile where
  identifier : String
  path : String
  /-- The time of the last change, in nanoseconds. -/
  modified : Int
  deriving DecidableEq, Repr

/-- How long ago a file was changed. -/
def CacheFile.age (f : CacheFile) (now : Int) : Nanoseconds :=
  (now - f.modified).toNat

/-- A directory of encoded lists. -/
structure Cache where
  directory : String
  /-- How long a file is fresh. -/
  retention : Nanoseconds
  deriving DecidableEq, Repr

namespace Cache

/-- The cache with some settings. -/
def ofSettings (settings : Settings) : Cache :=
  { directory := settings.cacheDirectory, retention := settings.retention }

/-! ### Names -/

/-- How the names of files end. -/
def extension : String := ".json"

/-- The path of the file of a list. -/
def path (c : Cache) (identifier : String) : String :=
  Path.join c.directory (identifier ++ extension)

/-- The identifier that the name of a file comes from. -/
def identifierOf? : Bytes → Option String
  | .text name =>
    match extension.toList.reverse.isPrefixOf? name.toList.reverse with
    | some (c :: stem) => some (String.ofList (c :: stem).reverse)
    | _ => none
  | .raw _ => none

/-! ### Files -/

/-- The file of a list at a path, if it can be opened. -/
def fileAt (d : Disk) (identifier path : String) : Except DiskError CacheFile := do
  let modified ← d.modified (.text path)
  .ok { identifier, path, modified }

/-- The file of a list, if it can be opened. -/
def file (c : Cache) (d : Disk) (identifier : String) : Except DiskError CacheFile :=
  fileAt d identifier (c.path identifier)

/-- Whether a file is too old. -/
def isStale (c : Cache) (now : Int) (f : CacheFile) : Bool :=
  c.retention ≤ f.age now

/-- The file of a list, if it is fresh. -/
def freshFile? (c : Cache) (d : Disk) (now : Int) (identifier : String) : Option CacheFile :=
  match c.file d identifier with
  | .ok f => if c.isStale now f then none else some f
  | .error _ => none

/-- The files of some lists, if all of them are fresh. -/
def check (c : Cache) (d : Disk) (now : Int) (identifiers : List String) :
    Option (List CacheFile) :=
  identifiers.mapM (c.freshFile? d now)

/-- The file with a name in the directory, if the name comes from an identifier and the file can be
opened. -/
def fileOfName? (c : Cache) (d : Disk) (name : Bytes) : Option CacheFile := do
  let identifier ← identifierOf? name
  let name ← name.text?
  (fileAt d identifier (Path.join c.directory name)).toOption

/-- All files, sorted by identifier. A directory that is missing has none. -/
def files (c : Cache) (d : Disk) : Except DiskError (List CacheFile) :=
  match d.listDirectory (.text c.directory) with
  | .ok names =>
    .ok ((names.filterMap (c.fileOfName? d)).mergeSort fun a b => a.identifier ≤ b.identifier)
  | .error .notFound => .ok []
  | .error e => .error e

/-! ### Content -/

/-- The encoded list in a file. -/
def read (d : Disk) (f : CacheFile) : Except DiskError String :=
  d.readText (.text f.path)

/-- Writes an encoded list. Gives the path of its file. -/
def write (c : Cache) (d : Disk) (now : Int) (identifier encoded : String) :
    Except DiskError String × Disk :=
  match d.makeDirectories (.text c.directory) with
  | (.error e, d) => (.error e, d)
  | (.ok (), d) =>
    match d.writeFile now (.text (c.path identifier)) (.text encoded) with
    | .error e => (.error e, d)
    | .ok d => (.ok (c.path identifier), d)

/-- Removes files, up to the first that cannot be removed. -/
def removeAll (d : Disk) : List CacheFile → Except DiskError Unit × Disk
  | [] => (.ok (), d)
  | f :: rest =>
    match d.removeFile (.text f.path) with
    | .error e => (.error e, d)
    | .ok d => removeAll d rest

/-- Removes all files. Tells how many there were. -/
def clear (c : Cache) (d : Disk) : Except DiskError Nat × Disk :=
  match c.files d with
  | .error e => (.error e, d)
  | .ok files =>
    let (result, d) := removeAll d files
    (result.map fun () => files.length, d)

end Cache

end ContentBlocker
