/-!
# Settings

Everything about loading lists that can be set, with what holds unless it is set.
-/

namespace ContentBlocker

/-- A moment, or a span of time, in nanoseconds. -/
abbrev Nanoseconds := Nat

/-- The nanoseconds of a second. -/
def second : Nanoseconds := 1000000000

/-- The settings of a loader. -/
structure Settings where
  /-- The directory with the files of lists. -/
  cacheDirectory : String := ".cache/rsblocker/abp-lists"
  /-- How long a file is fresh. -/
  retention : Nanoseconds := 7 * 24 * 60 * 60 * second
  /-- How many rules a list may have. -/
  ruleLimit : Nat := 50000
  /-- Whether lists are tidied. -/
  optimize : Bool := true
  /-- How long a request may take, in seconds. -/
  timeout : Nat := 30
  /-- By what name requests are made. -/
  userAgent : String := "Rsblocker/0.1.0"
  deriving DecidableEq, Repr

end ContentBlocker
