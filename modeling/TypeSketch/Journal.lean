-- The journal of a run: what was noted, at which level, by which part of the
-- program. Work that can fail keeps the notes made before the failure.

namespace TypeSketch

/-- How much a note matters. -/
inductive Level where
  | debug
  | info
  | warning
  | error
  | critical
  deriving DecidableEq, Repr

namespace Level

/-- The weight of a level. -/
def weight : Level → Nat
  | debug => 10
  | info => 20
  | warning => 30
  | error => 40
  | critical => 50

/-- The name of a level. -/
def name : Level → String
  | debug => "DEBUG"
  | info => "INFO"
  | warning => "WARNING"
  | error => "ERROR"
  | critical => "CRITICAL"

/-- All levels. -/
def all : List Level := [debug, info, warning, error, critical]

/-- The level of a given name. -/
def ofName? (s : String) : Option Level := all.find? (·.name == s)

/-- Whether a note of this level is kept when `least` is the least level that is. -/
def reaches (l least : Level) : Bool := least.weight ≤ l.weight

end Level

/-- The parts of the program that make notes. -/
inductive Part where
  | main
  | command
  | loading
  | registry
  | shape
  | options
  | generation
  deriving DecidableEq, Repr

/-- The name space of all parts in a log. -/
def Part.space : String := "json_typegen"

/-- The name of a part in a log. -/
def Part.name : Part → String
  | main => space ++ ".main"
  | command => space ++ ".cli"
  | loading => space ++ ".utils"
  | registry => space ++ ".codegen.registry"
  | shape => space ++ ".codegen.core.schema"
  | options => space ++ ".codegen.core.config"
  | generation => space ++ ".codegen.core.generator"

/-- A name inside the name space: one that is not in it yet is put there. -/
def Part.qualified (name : String) : String :=
  if name = space || (space ++ ".").isPrefixOf name then name else space ++ "." ++ name

/-- A note. -/
structure Note where
  level : Level
  part : Part
  text : String
  deriving DecidableEq, Repr

/-- Notes in the order in which they were made. -/
abbrev Journal := List Note

/-- Work that makes notes and can fail. -/
abbrev Noted (ε : Type) := ExceptT ε (StateM Journal)

namespace Noted

variable {ε α : Type}

/-- Makes a note. -/
def note (level : Level) (part : Part) (text : String) : Noted ε Unit :=
  modify fun j => j ++ [⟨level, part, text⟩]

/-- Makes several notes. -/
def notes (ns : Journal) : Noted ε Unit := modify fun j => j ++ ns

/-- Work without notes. -/
def ofExcept {δ : Type} (wrap : δ → ε) (r : Except δ α) : Noted ε α :=
  match r with
  | .ok a => pure a
  | .error e => throw (wrap e)

/-- The outcome of work that starts with an empty journal, and the journal. -/
def outcome (w : Noted ε α) : Except ε α × Journal := (w.run).run []

end Noted

end TypeSketch
