import ContentBlocker.Cache
import ContentBlocker.Registry.ListBuilder

/-!
# What loading changes

Loading lists reads and changes three things: the disk, the registry, and the network, of which it is
remembered what has been requested.
-/

namespace ContentBlocker

/-- Answers requests: the body of what is at a location, or an error. -/
abbrev Network := (location : String) → Except Error String

/-- The surroundings of a loader. `σ` is what the registry remembers. -/
structure World (σ : Type) where
  disk : Disk
  registry : σ
  /-- The locations that have been requested, last one first. -/
  requests : List String := []

namespace World

variable {σ α : Type}

/-- Puts a request to the registry of a world. -/
def onRegistry (w : World σ) (act : σ → α × σ) : α × World σ :=
  let (answer, registry) := act w.registry
  (answer, { w with registry })

/-- Puts a request to the disk of a world. -/
def onDisk (w : World σ) (act : Disk → α × Disk) : α × World σ :=
  let (answer, disk) := act w.disk
  (answer, { w with disk })

/-- Does something for each item in order. -/
def forEach {β : Type} (act : α → World σ → β × World σ) : List α → World σ → List β × World σ
  | [], w => ([], w)
  | a :: as, w =>
    let (b, w) := act a w
    let (bs, w) := forEach act as w
    (b :: bs, w)

end World

end ContentBlocker
