import CrateUsage.Tree.Kind

namespace CrateUsage

/-- All that a syntax node says of itself. Rows and columns count from zero, columns in bytes. -/
structure Label where
  kind : Kind
  named : Bool := true
  field : Option String := none
  row : Nat := 0
  col : Nat := 0
  text : Option String := none
  isError : Bool := false
  isMissing : Bool := false
  hasError : Bool := false
  deriving DecidableEq, Repr, Inhabited

inductive Node where
  | mk (label : Label) (children : List Node)
  deriving Repr, Inhabited

namespace Node

def label : Node → Label
  | mk label _ => label

def children : Node → List Node
  | mk _ children => children

@[simp] theorem label_mk (l : Label) (cs : List Node) : (mk l cs).label = l := rfl

@[simp] theorem children_mk (l : Label) (cs : List Node) : (mk l cs).children = cs := rfl

def kind (n : Node) : Kind := n.label.kind
def named (n : Node) : Bool := n.label.named
def text (n : Node) : Option String := n.label.text

def line (n : Node) : Int := n.label.row + 1

/-- A node without a word on errors has one if it is one or if one of its children has one. -/
def withErrorsOfParts (label : Label) (children : List Node) : Node :=
  mk { label with
    hasError := label.isError || label.isMissing || children.any (·.label.hasError) } children

def namedChildren (n : Node) : List Node := n.children.filter named

def child? (n : Node) (field : String) : Option Node :=
  n.children.find? (·.label.field == some field)

mutual
def preorder : Node → List Node
  | mk l cs => mk l cs :: preorderAll cs

def preorderAll : List Node → List Node
  | [] => []
  | n :: ns => n.preorder ++ preorderAll ns
end

mutual
/-- The first faulty node in reading order. Where a node claims an error that no child of it
shows, it is itself the answer. -/
def firstFault : Node → Option Node
  | mk l cs =>
    if l.isError || l.isMissing then some (mk l cs)
    else if l.hasError then some ((firstFaultOf cs).getD (mk l cs))
    else none

def firstFaultOf : List Node → Option Node
  | [] => none
  | n :: ns => n.firstFault.or (firstFaultOf ns)
end

/-- The text of a node, or the kind of the node that has none. -/
def read (n : Node) : Except Kind String :=
  match n.text with
  | some s => .ok s
  | none => .error n.kind

mutual
/-- The segments of a path, leftmost first. Generic arguments add none, and a prefix that is no
path adds none. -/
def segments : Node → List Node
  | mk l cs =>
    if l.kind.isScopedPath then
      segmentsAt "path" cs ++ (cs.find? (·.label.field == some "name")).toList
    else if l.kind = .genericType then segmentsAt "type" cs
    else if l.kind.isSegment then [mk l cs]
    else []

def segmentsAt (field : String) : List Node → List Node
  | [] => []
  | n :: ns => if n.label.field == some field then n.segments else segmentsAt field ns
end

def firstSegment? (n : Node) : Option Node := n.segments.head?

def lastSegment? (n : Node) : Option Node := n.segments.getLast?

end Node
end CrateUsage
