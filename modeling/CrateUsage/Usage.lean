import CrateUsage.Discovery
import CrateUsage.Text.Lowercase
import CrateUsage.Text.Sorted

namespace CrateUsage

/-- The crates that one file uses. Both lists ascend, and no crate is in both. -/
structure Usage where
  hints : Hints
  normal : List String
  testOnly : List String
  records : List Record := []
  deriving DecidableEq, Repr

namespace Usage

def isCrateName (name : String) : Bool :=
  match name.toList with
  | c :: _ => Text.isLowercase c
  | [] => false

def crates (names : List String) : List String :=
  Text.sorted (names.filter isCrateName)

def names (u : Usage) : Build → List String
  | .normal => u.normal
  | .testOnly => u.testOnly

/-- A crate that every build needs is not one that tests alone need. -/
def ofDiscovery (d : Discovery) : Usage :=
  let normal := crates d.normal
  let testOnly := crates (d.testOnly.filter (!d.normal.contains ·))
  { hints := d.hints, normal, testOnly,
    records := d.records.filter fun r =>
      match r.build with
      | .normal => normal.contains r.name
      | .testOnly => testOnly.contains r.name }

def firstLine (u : Usage) (name : String) (build : Build) : Option Int :=
  (u.records.find? fun r => r.name = name && r.build = build).bind (·.line)

def logEvent (u : Usage) (file : String) : Log.Event :=
  .analyzed file u.normal.length u.testOnly.length u.hints

end Usage
end CrateUsage
