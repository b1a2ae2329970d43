import CrateUsage.Proofs.Meaning

namespace CrateUsage

namespace Lexical

/-- A node and what reading it comes to: on its own, as a part of the path above it, and as a use
tree. The attributes that an attribute item holds are read with the item below it. -/
structure Part where
  node : Node
  alone : Meaning
  asPath : Meaning
  asUse : Meaning
  attributes : List (Node × Meaning)

def refer (segment : Option Node) (at_ : Node) : Meaning :=
  segment.elim .nothing fun segment => .emit segment.word at_.line

def bring (n : Option Node) : Meaning := n.elim .nothing fun n => .bring n.word

def inField (parts : List Part) (name : String) (read : Part → Meaning) : Meaning :=
  (parts.find? (·.node.label.field == some name)).elim .nothing read

def named (parts : List Part) (read : Part → Meaning) : Meaning :=
  .all ((parts.filter (·.node.named)).map read)

def firstNamed (parts : List Part) : Meaning :=
  (parts.find? (·.node.named)).elim .nothing Part.alone

theorem inField_cons (part : Part) (parts : List Part) (name : String) (read : Part → Meaning) :
    inField (part :: parts) name read =
      if part.node.label.field == some name then read part else inField parts name read := by
  unfold inField
  rw [List.find?_cons]
  cases part.node.label.field == some name <;> rfl

theorem named_cons (part : Part) (parts : List Part) (read : Part → Meaning) :
    named (part :: parts) read =
      if part.node.named then (read part).andThen (named parts read) else named parts read := by
  unfold named
  rw [List.filter_cons]
  cases part.node.named <;> rfl

theorem firstNamed_cons (part : Part) (parts : List Part) :
    firstNamed (part :: parts) = if part.node.named then part.alone else firstNamed parts := by
  unfold firstNamed
  rw [List.find?_cons]
  cases part.node.named <;> rfl

def usePath? (tree : Node) : Option Node :=
  match tree.kind with
  | .identifier | .scopedIdentifier => some tree
  | .scopedUseList | .useAsClause => tree.child? "path"
  | .useWildcard => tree.namedChildren.head?
  | _ => none

def useRoot (tree : Node) : Meaning :=
  (usePath? tree).elim .nothing fun path => refer path.firstSegment? path

def usePath (path : Node) : Meaning :=
  path.lastSegment?.elim .nothing fun segment =>
    if isPathKeyword segment.word then .nothing else .bring segment.word

/-- `self` in a group brings the last segment of the path before the group. -/
def useSelf (group : Node) : Meaning :=
  match group.child? "path", group.child? "list" with
  | some path, some items =>
    if items.namedChildren.any (·.kind = .selfWord) then bring path.lastSegment? else .nothing
  | _, _ => .nothing

def useTree (tree : Node) (parts : List Part) : Meaning :=
  match tree.kind with
  | .identifier => bring (some tree)
  | .scopedIdentifier => usePath tree
  | .useAsClause =>
    ((tree.child? "path").elim .nothing fun path => refer path.lastSegment? path).andThen
      (bring (tree.child? "alias"))
  | .scopedUseList => (useSelf tree).andThen (inField parts "list" Part.asUse)
  | .useList => named parts Part.asUse
  | _ => .nothing

def body (held : List (Node × Meaning)) (parts : List Part) : Meaning :=
  (Meaning.all (held.map (·.2))).andThen (named parts Part.alone)

def alone (above : List Kind) (held : List (Node × Meaning)) (after : List Node) (n : Node)
    (parts : List Part) : Meaning :=
  match n.kind with
  | .useDeclaration => inField parts "argument" fun tree => (useRoot tree.node).andThen tree.asUse
  | .externCrateDeclaration => (n.child? "name").elim .nothing fun name => refer (some name) name
  | .scopedIdentifier | .scopedTypeIdentifier =>
    (match n.segments with
      | first :: _ :: _ => refer (some first) first
      | _ => .nothing).andThen (inField parts "path" Part.asPath)
  | .attributeBody => firstNamed parts
  | .attributeItem =>
    if (Node.decorated? after).any (·.ownsAttributes above) then .nothing
    else named parts Part.alone
  | .block => .enclosed false (named parts Part.alone)
  | .modItem =>
    (bring (n.child? "name")).andThen
      (.enclosed (Markers.told (held.map (·.1))).isCfgTest (body held parts))
  | .functionItem =>
    if Node.isFree above then
      .freeFunction ((n.child? "name").map Node.word) (Markers.told (held.map (·.1)))
        (body held parts)
    else named parts Part.alone
  | _ => named parts Part.alone

/-- Within a path only generic arguments, and a prefix that is no path, say anything more. -/
def asPath (n : Node) (parts : List Part) (alone : Meaning) : Meaning :=
  if n.kind.isSegment then .nothing
  else if n.kind.isScopedPath then inField parts "path" Part.asPath
  else if n.kind = .genericType then
    (inField parts "type" Part.asPath).andThen (inField parts "type_arguments" Part.alone)
  else alone

def attributesOf (parts : List Part) : List (Node × Meaning) :=
  (parts.filter fun a => a.node.named && a.node.kind = .attributeBody).map
    fun a => (a.node, a.alone)

def Part.ofParts (above : List Kind) (held : List (Node × Meaning)) (after : List Node) (n : Node)
    (parts : List Part) : Part where
  node := n
  alone := Lexical.alone above held after n parts
  asPath := Lexical.asPath n parts (Lexical.alone above held after n parts)
  asUse := useTree n parts
  attributes := attributesOf parts

/-- The attributes that stand directly before the next node of a row. Of several attributes in one
attribute item the last stands nearest. -/
def heldAfter (held : List (Node × Meaning)) (part : Part) : List (Node × Meaning) :=
  if !part.node.named || part.node.kind.isComment then held
  else if part.node.kind = .attributeItem then held ++ part.attributes.reverse
  else []

mutual
/-- Reads a node by reading its children, given the kinds above it, the attributes before it and
the nodes after it. -/
def partOf (above : List Kind) (held : List (Node × Meaning)) (after : List Node) : Node → Part
  | .mk l cs => .ofParts above held after (.mk l cs) (partsOf (l.kind :: above) [] cs)

def partsOf (above : List Kind) (held : List (Node × Meaning)) : List Node → List Part
  | [] => []
  | n :: after =>
    partOf above held after n :: partsOf above (heldAfter held (partOf above held after n)) after
end

theorem node_partOf (above : List Kind) (held : List (Node × Meaning)) (after : List Node)
    (n : Node) : (partOf above held after n).node = n := by
  cases n
  rfl

theorem attributes_partOf (above : List Kind) (held : List (Node × Meaning)) (after : List Node)
    (n : Node) : (partOf above held after n).attributes =
      attributesOf (partsOf (n.kind :: above) [] n.children) := by
  cases n
  rfl

end Lexical

/-- What a whole tree comes to where no names are visible yet. -/
def Node.reading (root : Node) : Reading := (Lexical.partOf [] [] [] root).alone {} []

end CrateUsage
