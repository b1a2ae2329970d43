import CrateUsage.Attribute
import CrateUsage.Reference

namespace CrateUsage

/-- What one construct of a file says about names. A file read in order is a list of steps, and
which crates it uses follows from the steps alone. -/
inductive Step where
  /-- A path or a declaration begins with the name, which may be a crate. -/
  | refer (name : String) (line : Int)
  /-- The name is local from here to the end of the scope. -/
  | declare (name : String)
  /-- A text is needed of a node that has none. -/
  | unreadable (kind : Kind)
  | scope (marked : Bool) (body : List Step)
  /-- Whether the function is the entry point hangs on the scope it is met in, and so does which
  of its name and its attributes is read. -/
  | function (name : Option (Except Kind String)) (markers : Except Kind Markers)
      (body : List Step)

abbrev Outline := List Step

namespace Outline

/-- Where a node stands: the kinds of the nodes above it, nearest first, and the attributes that
stand directly before it, with what each of them says. -/
structure Place where
  above : List Kind := []
  attributes : List (Node × Outline) := []

def Place.below (p : Place) (kind : Kind) : Place := { above := kind :: p.above }

def attributesSay (p : Place) : Outline := p.attributes.flatMap (·.2)

def markers (p : Place) : Except Kind Markers := Markers.ofAttributes (p.attributes.map (·.1))

def reading (n : Node) (say : String → Step) : Outline :=
  match n.read with
  | .ok s => [say s]
  | .error kind => [.unreadable kind]

def readingOf (n : Option Node) (say : String → Step) : Outline :=
  match n with
  | some n => reading n say
  | none => []

def declaring (n : Option Node) : Outline := readingOf n .declare

def referring (segment : Option Node) (at_ : Node) : Outline :=
  readingOf segment (.refer · at_.line)

def referringFirst (path : Option Node) : Outline :=
  match path with
  | some path => referring path.firstSegment? path
  | none => []

def useRoot (tree : Node) : Outline :=
  match tree.kind with
  | .identifier | .scopedIdentifier => referringFirst (some tree)
  | .scopedUseList | .useAsClause => referringFirst (tree.child? "path")
  | .useWildcard => referringFirst tree.namedChildren.head?
  | _ => []

def declaringLast (path : Node) : Outline :=
  match path.lastSegment? with
  | none => []
  | some segment =>
    match segment.read with
    | .ok name => if isPathKeyword name then [] else [.declare name]
    | .error kind => [.unreadable kind]

/-- `self` in a group stands for the path before the group. -/
def declaringGroup (path items : Node) : Outline :=
  if items.namedChildren.any (·.kind = .selfWord) then declaring path.lastSegment? else []

mutual
/-- The local names that a use tree brings in. A renamed segment is a reference as well. -/
def useNames : Node → Outline
  | .mk l cs =>
    match l.kind with
    | .identifier => declaring (some (.mk l cs))
    | .scopedIdentifier => declaringLast (.mk l cs)
    | .useAsClause =>
      (match (Node.mk l cs).child? "path" with
        | some path => referring path.lastSegment? path
        | none => [])
        ++ declaring ((Node.mk l cs).child? "alias")
    | .scopedUseList =>
      match (Node.mk l cs).child? "path", (Node.mk l cs).child? "list" with
      | some path, some items => declaringGroup path items ++ useNamesAt "list" cs
      | none, some _ => useNamesAt "list" cs
      | _, none => []
    | .useList => useNamesOf cs
    | _ => []

def useNamesOf : List Node → Outline
  | [] => []
  | n :: ns => (if n.named then useNames n else []) ++ useNamesOf ns

def useNamesAt (field : String) : List Node → Outline
  | [] => []
  | n :: ns => if n.label.field == some field then useNames n else useNamesAt field ns
end

/-- Which children of a node are read: every named one, the first named one, or the one in a
field, the last either for itself or as a part of the path above it. -/
inductive Choice where
  | every
  | first
  | field (name : String)
  | pathField (name : String)

def Choice.asPath : Choice → Bool
  | pathField _ => true
  | _ => false

def Choice.takes (choice : Choice) (l : Label) : Bool :=
  match choice with
  | every | first => l.named
  | field name | pathField name => l.field == some name

mutual
/-- What a node says, read where it stands. The nodes after it tell what an attribute decorates.
As a part of a path it says only what hangs off the path beside its segments: generic arguments,
and a prefix that is no path. -/
def ofNode (asPath : Bool) (p : Place) (after : List Node) : Node → Outline
  | .mk l cs =>
    if asPath && l.kind.isSegment then []
    else
    match l.kind with
    | .useDeclaration =>
      match (Node.mk l cs).child? "argument" with
      | some tree => useRoot tree ++ useNames tree
      | none => []
    | .externCrateDeclaration =>
      match (Node.mk l cs).child? "name" with
      | some name => referring (some name) name
      | none => []
    | .scopedIdentifier | .scopedTypeIdentifier =>
      (match asPath, (Node.mk l cs).segments with
        | false, first :: _ :: _ => referring (some first) first
        | _, _ => [])
        ++ ofChildren (.pathField "path") (p.below l.kind) cs
    | .genericType =>
      if asPath then
        ofChildren (.pathField "type") (p.below l.kind) cs
          ++ ofChildren (.field "type_arguments") (p.below l.kind) cs
      else ofChildren .every (p.below l.kind) cs
    | .attributeBody => ofChildren .first (p.below l.kind) cs
    | .attributeItem =>
      if (Node.decorated? after).any (·.ownsAttributes p.above) then []
      else ofChildren .every (p.below l.kind) cs
    | .block => [.scope false (ofChildren .every (p.below l.kind) cs)]
    | .modItem =>
      match markers p with
      | .error kind => [.unreadable kind]
      | .ok m =>
        declaring ((Node.mk l cs).child? "name")
          ++ [.scope m.isCfgTest (attributesSay p ++ ofChildren .every (p.below l.kind) cs)]
    | .functionItem =>
      if Node.isFree p.above then
        [.function (((Node.mk l cs).child? "name").map Node.read) (markers p)
          (attributesSay p ++ ofChildren .every (p.below l.kind) cs)]
      else ofChildren .every (p.below l.kind) cs
    | _ => ofChildren .every (p.below l.kind) cs

def ofChildren (choice : Choice) (p : Place) : List Node → Outline
  | [] => []
  | .mk l cs :: after =>
    let said := if choice.takes l then ofNode choice.asPath p after (.mk l cs) else []
    let rest := ofChildren choice
      (if !l.named || l.kind.isComment then p
        else if l.kind = .attributeItem then
          { p with attributes := p.attributes ++ (ofAttributes p.above cs).reverse }
        else { p with attributes := [] })
      after
    match choice with
    | .every => said ++ rest
    | _ => if choice.takes l then said else rest

def ofAttributes (above : List Kind) : List Node → List (Node × Outline)
  | [] => []
  | .mk l cs :: after =>
    (if l.named && l.kind = .attributeBody then
      [(.mk l cs, ofChildren .first ⟨l.kind :: .attributeItem :: above, []⟩ cs)]
    else [])
      ++ ofAttributes above after
end

end Outline

def Node.outline (root : Node) : Outline := Outline.ofNode false {} [] root

end CrateUsage
