import CrateUsage.Proofs.Surface
import CrateUsage.Proofs.Tree

namespace CrateUsage

/-- One segment of a path: a name, or a word that leads to the current crate or module. -/
inductive Segment where
  | name (text : String)
  | crateWord
  | selfWord
  | superWord
  deriving DecidableEq, Repr

namespace Segment

def text : Segment → String
  | name text => text
  | crateWord => "crate"
  | selfWord => "self"
  | superWord => "super"

def kind : Segment → Kind
  | name _ => .identifier
  | crateWord => .crateWord
  | selfWord => .selfWord
  | superWord => .superWord

end Segment

/-- What stands at the end of the path in a use declaration: nothing more, `::*` or `as alias`. -/
inductive PathEnd where
  | plain
  | star
  | renamed (name : String)
  deriving DecidableEq, Repr

structure UsePath where
  path : List Segment
  ending : PathEnd
  deriving DecidableEq, Repr

/-- A use tree: a path of names, or a path before a group, in which `self` may come first. -/
inductive UseTree where
  | leaf (names : List String) (ending : PathEnd)
  | group (lead : List Segment) (withSelf : Bool) (members : List UseTree)

namespace UseTree

mutual
/-- The paths that a use tree imports, each with what stands before the tree. `self` stands for the
path before its group. -/
def paths (before : List Segment) : UseTree → List UsePath
  | leaf names ending => [⟨before ++ names.map .name, ending⟩]
  | group lead withSelf members =>
    (if withSelf then [⟨before ++ lead, .plain⟩] else []) ++ pathsOf (before ++ lead) members

def pathsOf (before : List Segment) : List UseTree → List UsePath
  | [] => []
  | tree :: trees => paths before tree ++ pathsOf before trees
end

end UseTree

namespace Node

inductive IsPath : List Segment → Node → Prop
  | single {s : Segment} {n : Node} (kind : n.kind = s.kind) (text : n.text = some s.text) :
      IsPath [s] n
  | longer {path : List Segment} {s : Segment} {n before last : Node}
      (kind : n.kind = .scopedIdentifier)
      (atPath : n.child? "path" = some before) (isPath : IsPath path before)
      (atName : n.child? "name" = some last) (text : last.text = some s.text) :
      IsPath (path ++ [s]) n

def IsUsePath (u : UsePath) (n : Node) : Prop :=
  match u.ending with
  | .plain => n.IsPath u.path
  | .star => n.kind = .useWildcard ∧ ∃ path, n.namedChildren.head? = some path ∧ path.IsPath u.path
  | .renamed name =>
    n.kind = .useAsClause ∧
      (∃ path, n.child? "path" = some path ∧ path.IsPath u.path) ∧
      ∃ leaf, n.child? "alias" = some leaf ∧ leaf.text = some name

mutual
/-- A node for a use tree. Tokens between the members do not matter. -/
def IsUseTree : UseTree → Node → Prop
  | .leaf names ending, n => n.IsUsePath ⟨names.map .name, ending⟩
  | .group lead withSelf members, n =>
    n.kind = .scopedUseList ∧ (∃ path, n.child? "path" = some path ∧ path.IsPath lead) ∧
      ∃ items, n.child? "list" = some items ∧ items.kind = .useList ∧
        if withSelf then
          ∃ word rest, items.namedChildren = word :: rest ∧ word.kind = .selfWord ∧
            AreUseTrees members rest
        else AreUseTrees members items.namedChildren

def AreUseTrees : List UseTree → List Node → Prop
  | [], ns => ns = []
  | tree :: trees, ns => ∃ n rest, ns = n :: rest ∧ IsUseTree tree n ∧ AreUseTrees trees rest
end

def UsesArgument (is : Node → Prop) (n : Node) : Prop :=
  n.kind = .useDeclaration ∧ n.named = true ∧ ∃ tree, n.child? "argument" = some tree ∧ is tree

namespace IsPath

theorem ne_nil {path : List Segment} {n : Node} (h : n.IsPath path) : path ≠ [] := by
  cases h <;> simp

/-- The segments of a node for a path are those of the path. -/
theorem segments_text {path : List Segment} {n : Node} (h : n.IsPath path) :
    n.segments.map Node.text = path.map fun s => some s.text := by
  induction h with
  | @single s n kind text =>
    have hn : n.segments = [n] := by
      apply segments_of_segment
      rw [kind]
      cases s <;> rfl
    simp [hn, text]
  | @longer path s n before last kind atPath _ atName text ih =>
    have hn : n.segments = before.segments ++ [last] := by
      rw [segments_of_scopedPath (by rw [kind]; rfl), atPath, atName]
      rfl
    simp [hn, ih, text]

theorem firstSegment? {path : List Segment} {n : Node} (h : n.IsPath path) :
    ∃ m, n.firstSegment? = some m ∧ m.text = some (path.head h.ne_nil).text := by
  have hs := congrArg List.head? h.segments_text
  rw [List.head?_map, List.head?_map, List.head?_eq_some_head h.ne_nil] at hs
  exact Option.map_eq_some_iff.mp hs

theorem lastSegment? {path : List Segment} {n : Node} (h : n.IsPath path) :
    ∃ m, n.lastSegment? = some m ∧ m.text = some (path.getLast h.ne_nil).text := by
  have hs := congrArg List.getLast? h.segments_text
  rw [List.getLast?_map, List.getLast?_map, List.getLast?_eq_some_getLast h.ne_nil] at hs
  exact Option.map_eq_some_iff.mp hs

end IsPath

def pathNode (field : Option String) (last : Segment) : List Segment → Node
  | [] => worded last.kind field last.text []
  | s :: before =>
    worded .scopedIdentifier field "" [pathNode (some "path") s before,
      worded last.kind (some "name") last.text []]

/-- Every path has a node. -/
theorem isPath_pathNode (field : Option String) (last : Segment) (before : List Segment) :
    (pathNode field last before).IsPath (before.reverse ++ [last]) := by
  induction before generalizing field last with
  | nil => exact .single rfl rfl
  | cons s before ih =>
    rw [List.reverse_cons]
    have hfield : (pathNode (some "path") s before).label.field = some "path" := by
      cases before <;> rfl
    have hpath : (pathNode field last (s :: before)).child? "path" =
        some (pathNode (some "path") s before) := by
      simp [pathNode, worded, child?, hfield]
    have hname : (pathNode field last (s :: before)).child? "name" =
        some (worded last.kind (some "name") last.text []) := by
      simp [pathNode, child?, hfield, worded]
    exact .longer rfl hpath (ih (some "path") s) hname rfl

end Node
end CrateUsage
