namespace CrateUsage

/-- One lexical frame: a file, a module, a function or a block. The flag is fixed when the frame
is opened; the names are those that the frame was the first of all open frames to declare, in
order. -/
structure Frame where
  testOnly : Bool := false
  names : List String := []
  deriving DecidableEq, Repr, Inhabited

/-- The open frames, innermost first, above a root that no operation removes; and how many open
frames own each local name, so that a look-up visits no frame. -/
structure ScopeStack where
  inner : List Frame := []
  root : Frame := {}
  owners : List (String × Nat) := []
  deriving DecidableEq, Repr

namespace ScopeStack

def frames (s : ScopeStack) : List Frame := s.inner ++ [s.root]

def top (s : ScopeStack) : Frame := s.inner.headD s.root

def depth (s : ScopeStack) : Nat := s.inner.length + 1

def isRoot (s : ScopeStack) : Bool := s.inner.isEmpty

def isTestOnly (s : ScopeStack) : Bool := s.top.testOnly

def isShadowed (s : ScopeStack) (name : String) : Bool := (s.owners.lookup name).isSome

/-- A frame is only for tests if it is marked so or opened within one that is. -/
def push (s : ScopeStack) (marked : Bool) : ScopeStack :=
  { s with inner := { testOnly := marked || s.isTestOnly } :: s.inner }

def mapTop (s : ScopeStack) (f : Frame → Frame) : ScopeStack :=
  match s.inner with
  | [] => { s with root := f s.root }
  | frame :: rest => { s with inner := f frame :: rest }

def acquire (name : String) : List (String × Nat) → List (String × Nat)
  | [] => [(name, 1)]
  | (n, k) :: rest => if n = name then (n, k + 1) :: rest else (n, k) :: acquire name rest

def release (name : String) : List (String × Nat) → List (String × Nat)
  | [] => []
  | (n, k) :: rest =>
    if n = name then if k ≤ 1 then rest else (n, k - 1) :: rest else (n, k) :: release name rest

/-- A name that is local already stays with the frame that declared it first. -/
def declare (s : ScopeStack) (name : String) : ScopeStack :=
  if s.isShadowed name then s
  else
    { s.mapTop (fun f => { f with names := f.names ++ [name] }) with
      owners := acquire name s.owners }

/-- Closes the innermost frame and forgets the names it owns. The root stays. -/
def pop? (s : ScopeStack) : Option (Frame × ScopeStack) :=
  match s.inner with
  | [] => none
  | frame :: rest =>
    some (frame, { s with inner := rest, owners := frame.names.foldl (fun o n => release n o) s.owners })

end ScopeStack
end CrateUsage
