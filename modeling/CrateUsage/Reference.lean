namespace CrateUsage

inductive Build where
  | normal
  | testOnly
  deriving DecidableEq, Repr, Inhabited

def Build.name : Build → String
  | .normal => "normal"
  | .testOnly => "test_only"

/-- The first sighting of a crate in one kind of build. -/
structure Record where
  name : String
  build : Build
  line : Option Int
  deriving DecidableEq, Repr

/-- Words that lead a path to the current crate or module, never to a dependency. -/
def isPathKeyword (name : String) : Bool :=
  name = "crate" || name = "self" || name = "super"

/-- The crates seen so far for each kind of build, and their first sightings in order. -/
structure Ledger where
  normal : List String := []
  testOnly : List String := []
  records : List Record := []
  deriving DecidableEq, Repr

namespace Ledger

def names (l : Ledger) : Build → List String
  | .normal => l.normal
  | .testOnly => l.testOnly

def holds (l : Ledger) (build : Build) (name : String) : Bool := (l.names build).contains name

/-- Only the first sighting of a name in a kind of build is entered. -/
def enter (l : Ledger) (r : Record) : Ledger :=
  if l.holds r.build r.name then l
  else
    match r.build with
    | .normal => { l with normal := l.normal ++ [r.name], records := l.records ++ [r] }
    | .testOnly => { l with testOnly := l.testOnly ++ [r.name], records := l.records ++ [r] }

end Ledger

structure Hints where
  hasMain : Bool := false
  hasTest : Bool := false
  hasProcMacro : Bool := false
  deriving DecidableEq, Repr, Inhabited

end CrateUsage
