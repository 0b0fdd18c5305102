import ContentBlocker.Command.Run

/-!
# The program

The directory of the cache is taken up as a disk, the command line is run on it, and the files that
are gone then are removed. There is no network here: every request fails, so lists come from the
cache only, and none is ever written.
-/

namespace ContentBlocker.Command

/-- A time in nanoseconds. -/
def nanoseconds (t : IO.FS.SystemTime) : Int :=
  t.sec * second + t.nsec.toNat

/-- The present, which is when a file was changed that is made now. -/
def readClock : IO Int :=
  IO.FS.withTempFile fun handle path => do
    handle.putStr "now"
    handle.flush
    return nanoseconds (← path.metadata).modified

/-- The disk with the directory of that path and what is in it. -/
def takeUp (directory : String) : IO Disk := do
  let empty : Disk := {}
  let root := (← IO.currentDir) / directory
  if !(← root.pathExists) then return empty
  if !(← root.isDir) then
    return (empty.writeFile 0 (.text directory) (.text "")).toOption.getD empty
  let mut disk := (empty.makeDirectories (.text directory)).2
  for item in ← root.readDir do
    let path : Bytes := .text (Path.join directory item.fileName)
    if ← item.path.isDir then
      disk := (disk.makeDirectories path).2
    else
      let content := Bytes.ofList (← IO.FS.readBinFile item.path).toList
      let modified := nanoseconds (← item.path.metadata).modified
      disk := (disk.writeFile modified path content).toOption.getD disk
  return disk

/-- Removes the files of a directory that are on one disk and not on another. -/
def removeMissing (directory : String) (before after : Disk) : IO Unit := do
  for name in (before.listDirectory (.text directory)).toOption.getD [] do
    if let .text file := name then
      let path := Path.join directory file
      if (after.item false (.text path)).toOption.isNone then IO.FS.removeFile path

/-- The directory of the cache that a command line names. -/
def directoryOf (args : List String) : String :=
  match Invocation.read args with
  | .ok i => i.options.settings.cacheDirectory
  | .error _ => ({} : Settings).cacheDirectory

/-- Runs a command line on the directory of the cache. -/
def runOnDirectory (args : List String) : IO Outcome := do
  let directory := directoryOf args
  let before ← takeUp directory
  let offline : HttpLibrary := fun _ => .ok fun _ => .error "no network"
  let world : World Registry := { disk := before, registry := {} }
  let (outcome, world) := run args .memory offline (← readClock) world
  removeMissing directory before world.disk
  return outcome

end ContentBlocker.Command

/-- Runs the program. -/
def main (args : List String) : IO UInt32 := do
  let outcome ← ContentBlocker.Command.runOnDirectory args
  IO.print outcome.output
  return outcome.exitCode.toUInt32
