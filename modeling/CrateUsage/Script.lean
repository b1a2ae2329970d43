import CrateUsage.Survey

namespace CrateUsage

/-- One instruction to the scopes and the ledger. The body of a block runs inside a scope of its
own and, where the block has an error text, ends with that error. -/
inductive Action where
  | push (marked : Bool)
  | pop
  | declare (name : String)
  | shadowed (name : String)
  | refer (name : String) (line : Option Int)
  | block (marked : Bool) (body : List Action) (error : String)
  deriving Repr, Inhabited

namespace Script

inductive Failure where
  | rootScope
  | raised (text : String)
  deriving DecidableEq, Repr

def Failure.message : Failure → String
  | rootScope => Fault.rootScope.message
  | raised text => text

inductive Outcome where
  | done
  | answer (yes : Bool)
  | frame (f : Frame)
  | failed (why : Failure)
  deriving DecidableEq, Repr

/-- A block that is running: the depth of the frame it opened, and that frame as it was when it
was closed, which an action of the body can bring about. -/
structure Running where
  depth : Nat
  closed : Option Frame := none

structure Stage where
  survey : Survey := {}
  blocks : List Running := []

structure Entry where
  action : Action
  outcome : Outcome
  after : Survey

namespace Stage

def pop? (s : Stage) : Option (Frame × Stage) :=
  s.survey.pop?.map fun (frame, survey) =>
    (frame, { survey, blocks := s.blocks.map fun b =>
      if b.closed.isNone && b.depth = s.survey.scopes.depth then { b with closed := some frame }
      else b })

/-- The frame that the innermost block opened, as it is now or as it was when it was closed. -/
def opened (s : Stage) : Frame :=
  match s.blocks with
  | { closed := some frame, .. } :: _ => frame
  | { depth, .. } :: _ => s.survey.scopes.inner.reverse.getD (depth - 2) s.survey.scopes.top
  | [] => s.survey.scopes.top

def enter (s : Stage) (marked : Bool) : Stage :=
  let survey := s.survey.push marked
  { survey, blocks := { depth := survey.scopes.depth } :: s.blocks }

/-- Leaves the innermost block. That the root cannot be closed counts before the block's error. -/
def leave (s : Stage) (error : String) : Outcome × Stage :=
  match s.pop? with
  | none => (.failed .rootScope, { s with blocks := s.blocks.tail })
  | some (_, s) =>
    (if error = "" then .frame s.opened else .failed (.raised error),
      { s with blocks := s.blocks.tail })

end Stage

mutual
/-- The actions that end within an action, in that order, itself last. -/
def runOne : Action → Stage → List Entry × Stage
  | .push marked, s =>
    let survey := s.survey.push marked
    ([⟨.push marked, .frame survey.scopes.top, survey⟩], { s with survey })
  | .pop, s =>
    match s.pop? with
    | none => ([⟨.pop, .failed .rootScope, s.survey⟩], s)
    | some (frame, s) => ([⟨.pop, .frame frame, s.survey⟩], s)
  | .declare name, s =>
    let survey := s.survey.declare name
    ([⟨.declare name, .done, survey⟩], { s with survey })
  | .shadowed name, s =>
    ([⟨.shadowed name, .answer (s.survey.scopes.isShadowed name), s.survey⟩], s)
  | .refer name line, s =>
    let survey := s.survey.refer name line
    ([⟨.refer name line, .done, survey⟩], { s with survey })
  | .block marked body error, s =>
    let (entries, s) := runAll body (s.enter marked)
    let (outcome, s) := s.leave error
    (entries ++ [⟨.block marked body error, outcome, s.survey⟩], s)

def runAll : List Action → Stage → List Entry × Stage
  | [], s => ([], s)
  | action :: actions, s =>
    let (entries, s) := runOne action s
    let (rest, s) := runAll actions s
    (entries ++ rest, s)
end

mutual
def namesIn : Action → List String
  | .push _ | .pop => []
  | .declare name | .shadowed name | .refer name _ => [name]
  | .block _ body _ => namesInAll body

def namesInAll : List Action → List String
  | [] => []
  | action :: actions => namesIn action ++ namesInAll actions
end

end Script
end CrateUsage
