import CrateUsage.Scope
import CrateUsage.Log

namespace CrateUsage

inductive Fault where
  | noText (kind : Kind)
  | rootScope
  | openScopes
  deriving DecidableEq, Repr

def Fault.message : Fault → String
  | noText kind => s!"{kind.name} node has no text"
  | rootScope => "Cannot pop root scope"
  | openScopes => "Scope stack not unwound after traversal"

/-- What is known while a file is read: the open scopes, the crates seen, and the log. -/
structure Survey where
  scopes : ScopeStack := {}
  ledger : Ledger := {}
  hints : Hints := {}
  log : List Log.Event := []
  deriving DecidableEq, Repr

namespace Survey

def push (s : Survey) (marked : Bool) : Survey := { s with scopes := s.scopes.push marked }

def pop? (s : Survey) : Option (Frame × Survey) :=
  s.scopes.pop?.map fun (frame, scopes) => (frame, { s with scopes })

def declare (s : Survey) (name : String) : Survey :=
  if s.scopes.isShadowed name then s
  else { s with
    scopes := s.scopes.declare name
    log := s.log ++ [.declared name s.scopes.depth] }

def build (s : Survey) : Build := if s.scopes.isTestOnly then .testOnly else .normal

/-- A name counts as a crate unless it is a path keyword or a local name. -/
def refer (s : Survey) (name : String) (line : Option Int) : Survey :=
  if isPathKeyword name then s
  else if s.scopes.isShadowed name then { s with log := s.log ++ [.shadowed name] }
  else if s.ledger.holds s.build name then s
  else
    let r : Record := { name, build := s.build, line }
    { s with ledger := s.ledger.enter r, log := s.log ++ [.recorded r] }

end Survey
end CrateUsage
