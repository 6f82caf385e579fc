/-!
# Log entries

What an operation reports while it goes on: a level, the part of the program that speaks, and a
text.
-/

set_option autoImplicit false

namespace Rollout.Log

/-- How grave an entry is, from least to most. -/
inductive Level where
  | debug
  | info
  | warning
  | error
deriving DecidableEq, Repr

def Level.name : Level → String
  | debug => "DEBUG"
  | info => "INFO"
  | warning => "WARNING"
  | error => "ERROR"

/-- The rank of a level. -/
def Level.rank : Level → Nat
  | debug => 0
  | info => 1
  | warning => 2
  | error => 3

/-- The part of the program that speaks. -/
inductive Source where
  | client
  | commandLine
  | configuration
  | contract
  | gasPrices
  | registry
  | run
deriving DecidableEq, Repr

/-- An entry. -/
structure Entry where
  level : Level
  source : Source
  text : String
deriving DecidableEq, Repr

def Entry.line (entry : Entry) : String :=
  s!"{entry.level.name}: {entry.text}"

def atLeast (level : Level) (entries : List Entry) : List Entry :=
  entries.filter fun entry => level.rank ≤ entry.level.rank

end Rollout.Log
