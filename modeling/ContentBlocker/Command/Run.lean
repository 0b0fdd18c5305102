import ContentBlocker.Command.Arguments
import ContentBlocker.Loader.Basic
import ContentBlocker.Loader.Http

/-!
# Running a command line

What the program prints and which code it exits with: 0, or 2 for a command line that cannot be read,
or 1 for anything else that goes wrong. Only what goes to the standard output is told here; nothing
goes there when something is wrong.
-/

namespace ContentBlocker.Command

/-- What a run of the program shows. -/
structure Outcome where
  exitCode : Nat
  output : String := ""
  deriving DecidableEq, Repr

/-- What the program calls itself. -/
def version : String := "rsblocker 0.1.0\n"

/-- How the program is used. -/
def help : String :=
  "Fetch, cache and compile content-blocker filter lists\n\n" ++
  "Usage: rsblocker [OPTIONS] <COMMAND>\n\n" ++
  "Commands:\n" ++
  "  fetch [--force]  load all filter lists, from the cache unless forced\n" ++
  "  status           show the state of the cache\n" ++
  "  clear            remove all cached lists\n\n" ++
  "Options:\n" ++
  "  --cache-dir <DIR>    directory of the cache\n" ++
  "  --timeout <SECONDS>  how long a request may take [default: 30]\n" ++
  "  -v, --verbose        tell more about the work\n" ++
  "  -h, --help           print this help\n" ++
  "  -V, --version        print the version\n"

/-- A text with blanks behind it up to a width. -/
def padRight (width : Nat) (s : String) : String :=
  s ++ String.ofList (List.replicate (width - s.length) ' ')

/-- A text with blanks in front of it up to a width. -/
def padLeft (width : Nat) (s : String) : String :=
  String.ofList (List.replicate (width - s.length) ' ') ++ s

/-- The line about a list that has been loaded. -/
def listLine (source : Source) (list : CompiledList) : String :=
  padRight 28 source.identifier ++ " " ++ padLeft 8 (toString list.rules.length) ++ " rules\n"

/-- The seconds of an hour. -/
def hour : Nat := 3600

/-- The line about a list in the cache. -/
def statusLine (s : CacheFileStatus) : String :=
  padRight 28 s.file.identifier ++ " " ++ padLeft 6 (toString (s.age / (hour * second))) ++ "h  " ++
    (if s.isFresh then "fresh" else "stale") ++ "\n"

/-- The lines about the lists in the cache. -/
def statusText (directory : String) (statuses : List CacheFileStatus) : String :=
  if statuses.isEmpty then s!"no cached lists in {directory}\n"
  else String.join (statuses.map statusLine)

/-- The settings that options ask for. -/
def Options.settings (o : Options) : Settings :=
  let defaults : Settings := {}
  { cacheDirectory := o.cacheDirectory.getD defaults.cacheDirectory
    timeout := o.timeout.getD defaults.timeout }

/-- What shows the result of a task. -/
def outcomeOf {α : Type} (result : Except Error α) (text : α → String) : Outcome :=
  match result with
  | .ok a => { exitCode := 0, output := text a }
  | .error _ => { exitCode := 1 }

/-- The loader with some settings that the program uses, and the transport that it loads with. -/
def makeLoader {σ : Type} (settings : Settings) (registry : RegistryService σ)
    (library : HttpLibrary) : Except Error (Loader σ × HttpTransport) := do
  let transport ← HttpTransport.make library settings
  let loader ← Loader.make settings Source.defaults Filter.translator (some registry)
  return (loader, transport)

/-- Does a task. -/
def Invocation.run {σ : Type} (i : Invocation) (registry : RegistryService σ)
    (library : HttpLibrary) (now : Int) (w : World σ) : Outcome × World σ :=
  let settings := i.options.settings
  match makeLoader settings registry library with
  | .error _ => ({ exitCode := 1 }, w)
  | .ok (loader, transport) =>
    match i.task with
    | .fetch =>
      let (result, w) := loader.load transport.network now i.options.force w
      (outcomeOf result fun lists =>
        String.join (loader.sources.zipWith (fun s l => listLine s l.list) lists), w)
    | .status => (outcomeOf (loader.status now w) (statusText settings.cacheDirectory), w)
    | .clear =>
      let (result, w) := loader.clear w
      (outcomeOf result fun count => s!"removed {count} cached lists\n", w)

/-- Runs a command line. -/
def run {σ : Type} (args : List String) (registry : RegistryService σ) (library : HttpLibrary)
    (now : Int) (w : World σ) : Outcome × World σ :=
  match Invocation.read args with
  | .ok i => i.run registry library now w
  | .error .usage => ({ exitCode := 2 }, w)
  | .error .version => ({ exitCode := 0, output := version }, w)
  | .error .help => ({ exitCode := 0, output := help }, w)

end ContentBlocker.Command
