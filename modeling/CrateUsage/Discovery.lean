import CrateUsage.Survey
import CrateUsage.Outline

namespace CrateUsage

namespace Survey

def close : Option Fault × Survey → Option Fault × Survey
  | (fault, s) =>
    match s.pop? with
    | some (_, s) => (fault, s)
    | none => (some .rootScope, s)

/-- Reads the head of a function: a function `main` in the root scope is the entry point, and
its attributes are not looked at. The answer says whether the function is a test. -/
def enterFunction (s : Survey) (name : Option (Except Kind String))
    (markers : Except Kind Markers) : Except Fault (Bool × Survey) :=
  match if s.scopes.isRoot then name else none with
  | some (.error kind) => .error (.noText kind)
  | some (.ok "main") => .ok (false, { s with hints := { s.hints with hasMain := true } })
  | _ =>
    match markers with
    | .error kind => .error (.noText kind)
    | .ok m =>
      .ok (m.isTest, { s with hints := { s.hints with
        hasTest := s.hints.hasTest || m.isTest
        hasProcMacro := s.hints.hasProcMacro || m.isProcMacro } })

end Survey

mutual
def Step.run : Step → Survey → Option Fault × Survey
  | .refer name line, s => (none, s.refer name (some line))
  | .declare name, s => (none, s.declare name)
  | .unreadable kind, s => (some (.noText kind), s)
  | .scope marked body, s => Survey.close (runAll body (s.push marked))
  | .function name markers body, s =>
    match s.enterFunction name markers with
    | .error fault => (some fault, s)
    | .ok (isTest, s) => Survey.close (runAll body (s.push isTest))

def Step.runAll : List Step → Survey → Option Fault × Survey
  | [], s => (none, s)
  | step :: steps, s =>
    match step.run s with
    | (none, s) => Step.runAll steps s
    | stopped => stopped
end

/-- The crates that one file names, before those are left out that no crate can be called. -/
structure Discovery where
  normal : List String
  testOnly : List String
  records : List Record
  hints : Hints
  deriving DecidableEq, Repr

def Discovery.ofSurvey (s : Survey) : Discovery :=
  { normal := s.ledger.normal, testOnly := s.ledger.testOnly, records := s.ledger.records,
    hints := s.hints }

def Node.survey (root : Node) : Option Fault × Survey :=
  match Step.runAll root.outline {} with
  | (none, s) => (if s.scopes.isRoot then none else some .openScopes, s)
  | stopped => stopped

def Node.discover (root : Node) : Except Fault Discovery :=
  match root.survey with
  | (none, s) => .ok (.ofSurvey s)
  | (some fault, _) => .error fault

end CrateUsage
