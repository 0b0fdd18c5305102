/-!
# Arguments of the command line

A command line names one task, with options before and behind it. Options of the whole program may
stand on both sides; of one that stands on both, the one behind the task counts. On one side an
option with a value may stand once only.

Arguments are read from left to right, and what is met first decides: a mistake, or an option that
asks for the version or for help.
-/

namespace ContentBlocker.Command

/-- What the program may be asked to do. -/
inductive Task where
  | fetch
  | status
  | clear
  deriving DecidableEq, Repr

/-- The task with a name. -/
def Task.ofName? : String → Option Task
  | "fetch" => some .fetch
  | "status" => some .status
  | "clear" => some .clear
  | _ => none

/-- The options on one side of the task. -/
structure Options where
  cacheDirectory : Option String := none
  timeout : Option Nat := none
  /-- How much is told about the work. -/
  verbosity : Nat := 0
  force : Bool := false
  deriving DecidableEq, Repr

/-- Why there is nothing to do. -/
inductive Refusal where
  | usage
  | version
  | help
  deriving DecidableEq, Repr

/-- Which options may stand at a place besides those of the whole program. -/
inductive Level where
  /-- In front of the task. -/
  | program
  /-- Behind a task. -/
  | task (task : Task)
  deriving DecidableEq, Repr

/-- What the options at a place are followed by. -/
inductive Rest where
  | nothing
  | word (word : String) (behind : List String)
  deriving DecidableEq, Repr

/-! ### Values -/

/-- A number of 64 bits in decimal digits, perhaps behind a plus sign. -/
def number? (s : String) : Option Nat :=
  let digits := match s.toList with
    | '+' :: rest => rest
    | cs => cs
  let n := digits.foldl (fun n d => 10 * n + (d.toNat - '0'.toNat)) 0
  if !digits.isEmpty && digits.all Char.isDigit && n < 1 <<< 64 then some n else none

/-- Whether an argument is an option and not a value. -/
def isOption (arg : String) : Bool :=
  match arg.toList with
  | '-' :: _ :: _ => true
  | _ => false

/-- The options with a directory for the cache, which may be given once and not be empty. -/
def Options.setCacheDirectory? (o : Options) (value : String) : Option Options :=
  if o.cacheDirectory.isNone && !value.isEmpty then some { o with cacheDirectory := some value }
  else none

/-- The options with a timeout, which may be given once. -/
def Options.setTimeout? (o : Options) (value : String) : Option Options :=
  if o.timeout.isNone then (number? value).map fun n => { o with timeout := some n } else none

/-- The options with an option that has a value. -/
def Options.setValue? (o : Options) (name value : String) : Option Options :=
  match name with
  | "cache-dir" => o.setCacheDirectory? value
  | "timeout" => o.setTimeout? value
  | _ => none

/-- The options with an option that has no value. -/
def Options.setFlag (o : Options) (level : Level) (name : String) : Except Refusal Options :=
  match name, level with
  | "verbose", _ => .ok { o with verbosity := o.verbosity + 1 }
  | "force", .task .fetch => if o.force then .error .usage else .ok { o with force := true }
  | "version", .program => .error .version
  | "help", _ => .error .help
  | _, _ => .error .usage

/-- The name of an option that is given by a letter. -/
def flagName : Char → String
  | 'v' => "verbose"
  | 'V' => "version"
  | 'h' => "help"
  | _ => ""

/-- The options with several that are given by letters. -/
def Options.setFlags (o : Options) (level : Level) : List Char → Except Refusal Options
  | [] => .ok o
  | c :: cs => do
    let o ← o.setFlag level (flagName c)
    o.setFlags level cs

/-! ### Reading -/

/-- The name of a long option and the value that is attached to it by an equals sign. -/
def splitValue (option : List Char) : String × Option String :=
  match option.dropWhile (· ≠ '=') with
  | _ :: value => (String.ofList (option.takeWhile (· ≠ '=')), some (String.ofList value))
  | [] => (String.ofList option, none)

/-- Reads the options at a place, up to the first argument that is none. -/
def Options.read (level : Level) (o : Options) : List String → Except Refusal (Options × Rest)
  | [] => .ok (o, .nothing)
  | arg :: args =>
    match arg.toList with
    -- Two hyphens end the options, and the program takes no values of its own behind them.
    | ['-', '-'] => if args.isEmpty then .ok (o, .nothing) else .error .usage
    | '-' :: '-' :: option =>
      match splitValue option with
      | (name, some value) =>
        match o.setValue? name value with
        | some o => o.read level args
        | none => .error .usage
      | (name, none) =>
        if name = "cache-dir" ∨ name = "timeout" then
          match args with
          | [] => .error .usage
          | value :: args =>
            if isOption value then .error .usage
            else
              match o.setValue? name value with
              | some o => o.read level args
              | none => .error .usage
        else
          match o.setFlag level name with
          | .ok o => o.read level args
          | .error e => .error e
    | '-' :: c :: cs =>
      match o.setFlags level (c :: cs) with
      | .ok o => o.read level args
      | .error e => .error e
    | _ => .ok (o, .word arg args)

/-- A task with all its options. -/
structure Invocation where
  task : Task
  options : Options
  deriving DecidableEq, Repr

/-- The options that count, of those in front of a task and those behind it. -/
def Options.merge (outer inner : Options) : Options where
  cacheDirectory := inner.cacheDirectory <|> outer.cacheDirectory
  timeout := inner.timeout <|> outer.timeout
  verbosity := if inner.verbosity = 0 then outer.verbosity else inner.verbosity
  force := inner.force

/-- Reads a command line. -/
def Invocation.read (args : List String) : Except Refusal Invocation := do
  match ← Options.read .program {} args with
  | (_, .nothing) => .error .usage
  | (outer, .word name args) =>
    match Task.ofName? name with
    | none => .error (if name = "help" then .help else .usage)
    | some task =>
      match ← Options.read (.task task) {} args with
      | (_, .word _ _) => .error .usage
      | (inner, .nothing) => .ok { task, options := outer.merge inner }

end ContentBlocker.Command
