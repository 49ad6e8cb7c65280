/-!
# Log records

What a run reports about its own progress.  A record is made where the thing
happens and written by the command line, which decides how much of it is shown.

## Main definitions

* `Log.Level`, `Log.Part`, `Log.Record`.
-/

namespace Kumihan.Log

/-- How much a record matters. -/
inductive Level
  /-- Every step. -/
  | debug
  /-- The stages of a run. -/
  | info
  /-- Something is likely wrong with the manuscript. -/
  | warning
  deriving DecidableEq, Repr

/-- The rank of a level; a higher one is shown more often. -/
def Level.rank : Level → Nat
  | debug => 10
  | info => 20
  | warning => 30

/-- The name of a level in a written record. -/
def Level.label : Level → String
  | debug => "DEBUG"
  | info => "INFO"
  | warning => "WARNING"

/-- The part of the program that speaks. -/
inductive Part
  /-- The compositor. -/
  | composing
  /-- The table of contents. -/
  | contents
  /-- The compilation of a manuscript as a whole. -/
  | compiling
  /-- The assembly of the book. -/
  | building
  deriving DecidableEq, Repr

/-- The name of a part in a written record. -/
def Part.label : Part → String
  | composing => "rotelib.sequencer"
  | contents => "rotelib.toc"
  | compiling => "rotelib.compiler"
  | building => "rotelib.builders.base"

/-- One record. -/
structure Record where
  /-- How much it matters. -/
  level : Level
  /-- The part of the program that speaks. -/
  part : Part
  /-- What is said. -/
  message : String
  deriving DecidableEq, Repr

end Kumihan.Log
