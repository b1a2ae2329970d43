import CrateUsage.Tree

namespace CrateUsage

structure Markers where
  isTest : Bool
  isProcMacro : Bool
  isCfgTest : Bool
  deriving DecidableEq, Repr

namespace Attribute

/-- The name of an attribute of one segment. A longer path is no name. -/
def name (a : Node) : Except Kind (Option String) :=
  match a.namedChildren with
  | path :: _ => if path.kind = .identifier then some <$> path.read else pure none
  | [] => pure none

/-- Exactly `cfg(test)`: not a longer list, nor a comma after it. -/
def isCfgTest (a : Node) : Except Kind Bool := do
  if (← name a) ≠ some "cfg" then return false
  match (a.child? "arguments").map Node.children with
  | some [opening, word, closing] =>
    if opening.kind = .openParen ∧ closing.kind = .closeParen ∧ word.kind = .identifier then
      return (← word.read) = "test"
    else return false
  | _ => return false

def anyCfgTest : List Node → Except Kind Bool
  | [] => pure false
  | a :: as => do if ← isCfgTest a then return true else anyCfgTest as

end Attribute

def Markers.ofAttributes (attributes : List Node) : Except Kind Markers := do
  let names ← attributes.mapM Attribute.name
  return {
    isTest := names.contains (some "test")
    isProcMacro := names.contains (some "proc_macro")
    isCfgTest := ← Attribute.anyCfgTest attributes }

namespace Node

def isDecoration (n : Node) : Bool := n.kind = .attributeItem || n.kind.isComment

/-- The attributes that one attribute item holds, nearest to the item below first. -/
def attributesHeld (n : Node) : List Node :=
  if n.kind = .attributeItem then (n.namedChildren.filter (·.kind = .attributeBody)).reverse else []

/-- The attributes of an item, given the nodes before it, nearest first. -/
def outerAttributes (before : List Node) : List Node :=
  (((before.filter named).takeWhile isDecoration).reverse).flatMap attributesHeld

def decorated? (after : List Node) : Option Node :=
  (after.filter named).find? (!·.isDecoration)

/-- A function is free unless the two nodes above it, nearest first, are the body of an
implementation or of a trait. -/
def isFree : List Kind → Bool
  | .declarationList :: .implItem :: _ => false
  | .declarationList :: .traitItem :: _ => false
  | _ => true

/-- Modules and free functions read their attributes within their own scope. -/
def ownsAttributes (n : Node) (above : List Kind) : Bool :=
  n.kind = .modItem || (n.kind = .functionItem && isFree above)

end Node
end CrateUsage
