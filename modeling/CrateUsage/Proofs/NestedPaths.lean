import CrateUsage.Proofs.Surface
import CrateUsage.Proofs.Tree

namespace CrateUsage

/-- How a path begins: with one segment, with `::` before a name, or with a type in angle brackets,
which is no segment. -/
inductive PathHead where
  | segment (leaf : Node)
  | rooted (name : Node)
  | bracketed (type : Node)

/-- How a path goes on: with `::` and a name, or with generic arguments, behind `::` or not. -/
inductive PathStep where
  | name (leaf : Node)
  | arguments (list : Node)

def PathHead.name? : PathHead → Option Node
  | segment leaf | rooted leaf => some leaf
  | bracketed _ => none

def PathStep.name? : PathStep → Option Node
  | name leaf => some leaf
  | arguments _ => none

structure WrittenPath where
  head : PathHead
  steps : List PathStep

namespace WrittenPath

def names (p : WrittenPath) : List Node := p.head.name?.toList ++ p.steps.filterMap PathStep.name?

def andThen (p : WrittenPath) (step : PathStep) : WrittenPath :=
  { p with steps := p.steps ++ [step] }

theorem names_andThen (p : WrittenPath) (step : PathStep) :
    (p.andThen step).names = p.names ++ step.name?.toList := by
  simp only [names, andThen, List.filterMap_append, List.append_assoc]
  cases step <;> rfl

end WrittenPath

namespace Node

/-- The tree of a path. Each step makes a node around the tree of all that is written before it, so
the last step is outermost; what generic arguments and a type in brackets hold is left open. -/
inductive Nests : WrittenPath → Node → Prop
  | segment {leaf : Node} (kind : leaf.kind.isSegment = true) : Nests ⟨.segment leaf, []⟩ leaf
  | rooted {n name : Node} (kind : n.kind.isScopedPath = true) (atPath : n.child? "path" = none)
      (atName : n.child? "name" = some name) : Nests ⟨.rooted name, []⟩ n
  | bracketed {type : Node} (kind : type.kind = .other "bracketed_type") :
      Nests ⟨.bracketed type, []⟩ type
  | name {p : WrittenPath} {n before leaf : Node} (kind : n.kind.isScopedPath = true)
      (atPath : n.child? "path" = some before) (nests : Nests p before)
      (atName : n.child? "name" = some leaf) : Nests (p.andThen (.name leaf)) n
  | arguments {p : WrittenPath} {n base list : Node} (kind : n.kind = .genericType)
      (atType : n.child? "type" = some base) (nests : Nests p base)
      (atArguments : n.child? "type_arguments" = some list) : Nests (p.andThen (.arguments list)) n

/-- By induction on the nesting, outwards: a node adds its name behind the segments of the tree
before it, and generic arguments add nothing. -/
theorem Nests.segments_eq {p : WrittenPath} {n : Node} (h : n.Nests p) : n.segments = p.names := by
  induction h with
  | segment kind => exact segments_of_segment kind
  | rooted kind atPath atName =>
    rw [segments_of_scopedPath kind, atPath, atName]
    rfl
  | bracketed kind =>
    rw [Node.segments_eq, kind]
    rfl
  | name kind atPath _ atName ih =>
    rw [segments_of_scopedPath kind, atPath, atName, Option.elim_some, ih,
      WrittenPath.names_andThen]
    rfl
  | arguments kind atType _ _ ih =>
    rw [segments_of_genericType kind, atType, Option.elim_some, ih, WrittenPath.names_andThen]
    exact (List.append_nil _).symm

theorem mapM_read_of_text {n : Option Node} {word : Option String}
    (h : n.map text = word.map some) : n.mapM read = .ok word := by
  cases n with
  | none =>
    cases word with
    | none => rfl
    | some word => cases h
  | some n =>
    cases word with
    | none => cases h
    | some word =>
      have ht : n.text = some word := Option.some.inj h
      have hr : n.read = .ok word := by rw [read, ht]
      rw [Option.mapM_some, hr]
      rfl

theorem mapM_read_eq_none_iff {n : Option Node} : n.mapM read = .ok none ↔ n = none := by
  cases n with
  | none => exact ⟨fun _ => rfl, fun _ => rfl⟩
  | some n =>
    rw [Option.mapM_some]
    cases n.read with
    | ok word => exact ⟨nofun, nofun⟩
    | error kind => exact ⟨nofun, nofun⟩

/-- The segments of a path are its names as they are written, whatever stands in generic arguments
and in brackets, and its first and last name are those of its ends: there is none of either exactly
where no name is written. -/
theorem segments_of_written {p : WrittenPath} {n : Node} (h : n.Nests p) :
    n.segments = p.names ∧
      (∀ word, p.names.head?.map text = word.map some → n.firstSegment?.mapM read = .ok word) ∧
      (∀ word, p.names.getLast?.map text = word.map some → n.lastSegment?.mapM read = .ok word) ∧
      (n.firstSegment?.mapM read = .ok none ↔ p.names = []) ∧
      (n.lastSegment?.mapM read = .ok none ↔ p.names = []) := by
  have hs := h.segments_eq
  have hfirst : n.firstSegment? = p.names.head? := by rw [firstSegment?, hs]
  have hlast : n.lastSegment? = p.names.getLast? := by rw [lastSegment?, hs]
  rw [hfirst, hlast, mapM_read_eq_none_iff, mapM_read_eq_none_iff]
  refine ⟨hs, ?_, ?_, List.head?_eq_none_iff, List.getLast?_eq_none_iff⟩
  · intro word hw
    exact mapM_read_of_text hw
  · intro word hw
    exact mapM_read_of_text hw

/-- `<T as a::B>::c::<d::E>::f` has the segments `c` and `f`, and its bracketed head has none. -/
theorem segments_of_qualified :
    let type := worded (.other "bracketed_type") (some "path") "" [
      worded (.other "qualified_type") none "" [worded .typeIdentifier (some "type") "T" [],
        twoSegments (some "alias") "a" "B"]]
    let list := worded .typeArguments (some "type_arguments") "" [twoSegments none "d" "E"]
    let c := worded .identifier (some "name") "c" []
    let f := worded .identifier (some "name") "f" []
    let base := worded .scopedIdentifier (some "type") "" [type, c]
    let generic := worded .genericType (some "path") "" [base, list]
    let n := worded .scopedIdentifier none "" [generic, f]
    n.Nests ⟨.bracketed type, [.name c, .arguments list, .name f]⟩ ∧ n.segments = [c, f] ∧
      n.firstSegment?.mapM read = .ok (some "c") ∧ n.lastSegment?.mapM read = .ok (some "f") ∧
      type.firstSegment?.mapM read = .ok none := by
  intro type list c f base generic n
  have htype : type.Nests ⟨.bracketed type, []⟩ := .bracketed rfl
  have hbase : base.Nests ⟨.bracketed type, [.name c]⟩ := .name rfl rfl htype rfl
  have hgeneric : generic.Nests ⟨.bracketed type, [.name c, .arguments list]⟩ :=
    .arguments rfl rfl hbase rfl
  have hn : n.Nests ⟨.bracketed type, [.name c, .arguments list, .name f]⟩ :=
    .name rfl rfl hgeneric rfl
  obtain ⟨hs, hfirst, hlast, -, -⟩ := segments_of_written hn
  obtain ⟨-, -, -, hnone, -⟩ := segments_of_written htype
  exact ⟨hn, hs, hfirst (some "c") rfl, hlast (some "f") rfl, hnone.mpr rfl⟩

end Node
end CrateUsage
