import CrateUsage.Proofs.FlatOutlines
import CrateUsage.Proofs.Reachable
import CrateUsage.Proofs.Surface

namespace CrateUsage

namespace Node

mutual
def useParts : Node → List Node
  | .mk l cs =>
    .mk l cs ::
      match l.kind with
      | .scopedUseList => usePartsAt "list" cs
      | .useList => usePartsOf cs
      | _ => []

def usePartsOf : List Node → List Node
  | [] => []
  | n :: ns => (if n.named then useParts n else []) ++ usePartsOf ns

def usePartsAt (field : String) : List Node → List Node
  | [] => []
  | n :: ns => if n.label.field == some field then useParts n else usePartsAt field ns
end

/-- The leaf that a use tree makes local as it stands: a single name, or an alias. -/
def plainLeaf? (n : Node) : Option Node :=
  match n.kind with
  | .identifier => some n
  | .useAsClause => n.child? "alias"
  | _ => none

/-- The single names and the aliases in a use tree are no path keywords. Its paths may hold some. -/
def HasPlainNames (tree : Node) : Prop :=
  ∀ part ∈ tree.useParts, ∀ leaf ∈ part.plainLeaf?, ∀ word ∈ leaf.text,
    isPathKeyword word = false

def IsSelfGroup (word : String) (n : Node) : Prop :=
  n.kind = .scopedUseList ∧
    (∃ items ∈ n.child? "list", ∃ m ∈ items.namedChildren, m.kind = .selfWord) ∧
    ∃ path ∈ n.child? "path", ∃ last ∈ path.lastSegment?, last.text = some word

/-- Somewhere in a use tree `self` stands for the given word. -/
def NamesBySelf (word : String) (tree : Node) : Prop :=
  ∃ part ∈ tree.useParts, part.IsSelfGroup word

instance (tree : Node) : Decidable tree.HasPlainNames :=
  inferInstanceAs (Decidable (∀ part ∈ tree.useParts, _))

instance (word : String) (n : Node) : Decidable (n.IsSelfGroup word) :=
  inferInstanceAs (Decidable (_ ∧ _))

instance (word : String) (tree : Node) : Decidable (tree.NamesBySelf word) :=
  inferInstanceAs (Decidable (∃ part ∈ tree.useParts, _))

end Node

namespace Outline

def ownNames (n : Node) : Outline :=
  match n.kind with
  | .identifier => declaring (some n)
  | .scopedIdentifier => declaringLast n
  | .useAsClause =>
    ((n.child? "path").elim [] fun path => referring path.lastSegment? path) ++
      declaring (n.child? "alias")
  | .scopedUseList =>
    (n.child? "list").elim [] fun items =>
      (n.child? "path").elim [] fun path => declaringGroup path items
  | _ => []

mutual
/-- By induction on the tree: a use tree says what its parts say by themselves, one after the
other. -/
theorem useNames_eq_parts : ∀ n : Node, useNames n = n.useParts.flatMap ownNames
  | .mk l cs => by
    rw [useNames_eq, Node.useParts, List.flatMap_cons, ownNames]
    simp only [Node.kind, Node.label_mk, Node.children_mk]
    cases l.kind
    case scopedUseList =>
      rw [← useNamesAt_eq_parts "list" cs]
      cases hl : (Node.mk l cs).child? "list" with
      | none =>
        have hnone := useNamesAt_children "list" (.mk l cs)
        rw [hl] at hnone
        exact hnone.symm
      | some items => rfl
    case useList => exact useNamesOf_eq_parts cs
    all_goals exact (List.append_nil _).symm

theorem useNamesOf_eq_parts : ∀ ns : List Node,
    useNamesOf ns = (Node.usePartsOf ns).flatMap ownNames
  | [] => rfl
  | n :: ns => by
    rw [useNamesOf, Node.usePartsOf, List.flatMap_append, useNamesOf_eq_parts ns]
    cases n.named with
    | true => rw [if_pos rfl, if_pos rfl, useNames_eq_parts n]
    | false => rfl

theorem useNamesAt_eq_parts (field : String) : ∀ ns : List Node,
    useNamesAt field ns = (Node.usePartsAt field ns).flatMap ownNames
  | [] => rfl
  | n :: ns => by
    rw [useNamesAt, Node.usePartsAt, useNamesAt_eq_parts field ns]
    split
    · exact useNames_eq_parts n
    · rfl
end

section Declared

variable {word : String}

theorem declare_mem_declaring {n : Option Node} :
    .declare word ∈ declaring n ↔ ∃ m ∈ n, m.text = some word := by
  cases n with
  | none => simp [declaring, readingOf]
  | some n =>
    simp only [declaring, readingOf, reading, Node.read, Option.mem_def, Option.some.injEq,
      exists_eq_left']
    cases n.text with
    | none => simp
    | some text => simp [eq_comm]

theorem declare_not_mem_referring (segment : Option Node) (at_ : Node) :
    .declare word ∉ referring segment at_ := by
  cases segment with
  | none => exact List.not_mem_nil
  | some n =>
    simp only [referring, readingOf, reading]
    cases n.read with
    | ok text => simp
    | error kind => simp

theorem declare_not_mem_useRoot (tree : Node) : .declare word ∉ useRoot tree := by
  rw [Lexical.useRoot_eq_referringFirst, referringFirst_eq]
  cases Lexical.usePath? tree with
  | none => exact List.not_mem_nil
  | some path => exact declare_not_mem_referring _ path

/-- Where a path stands for its last segment, a path keyword is passed over. -/
theorem not_keyword_of_declaringLast {path : Node} (h : .declare word ∈ declaringLast path) :
    isPathKeyword word = false := by
  unfold declaringLast at h
  split at h
  · cases h
  · split at h
    · split at h
      · cases h
      · rename_i hk
        cases List.mem_singleton.mp h
        exact Bool.eq_false_iff.mpr hk
    · cases List.mem_singleton.mp h

/-- Where `self` stands for the last segment of a path, a path keyword is not passed over. -/
theorem declare_mem_declaringGroup {path items : Node} :
    .declare word ∈ declaringGroup path items ↔
      (∃ m ∈ items.namedChildren, m.kind = .selfWord) ∧
        ∃ last ∈ path.lastSegment?, last.text = some word := by
  rw [declaringGroup, List.mem_ite_nil_right, declare_mem_declaring]
  simp only [List.any_eq_true, decide_eq_true_eq]

/-- Beside groups, only a name that stands for itself can make a path keyword local. -/
theorem exists_plainLeaf_of_declare {part : Node} (h : .declare word ∈ ownNames part)
    (hk : isPathKeyword word = true) (hg : part.kind ≠ .scopedUseList) :
    ∃ leaf ∈ part.plainLeaf?, leaf.text = some word := by
  unfold ownNames at h
  unfold Node.plainLeaf?
  cases hkind : part.kind <;> rw [hkind] at h
  case identifier => exact declare_mem_declaring.mp h
  case scopedIdentifier =>
    -- A path declares its last segment too, but not where that is a path keyword.
    rw [not_keyword_of_declaringLast h] at hk
    cases hk
  case useAsClause =>
    rcases List.mem_append.mp h with h | h
    · cases hp : part.child? "path" <;> rw [hp] at h
      · cases h
      · exact absurd h (declare_not_mem_referring _ _)
    · exact declare_mem_declaring.mp h
  case scopedUseList => exact absurd hkind hg
  all_goals cases h

/-- Where names and aliases are plain, only a group with `self` makes a path keyword local. -/
theorem declare_mem_ownNames {part : Node} (hk : isPathKeyword word = true)
    (plain : ∀ leaf ∈ part.plainLeaf?, ∀ word ∈ leaf.text, isPathKeyword word = false) :
    .declare word ∈ ownNames part ↔ part.IsSelfGroup word := by
  by_cases hg : part.kind = .scopedUseList
  · simp only [ownNames, hg, Node.IsSelfGroup, true_and]
    cases part.child? "list" with
    | none => simp
    | some items =>
      cases part.child? "path" with
      | none => simp
      | some path => simpa using declare_mem_declaringGroup
  · refine ⟨fun h => ?_, fun h => absurd h.1 hg⟩
    obtain ⟨leaf, hl, ht⟩ := exists_plainLeaf_of_declare h hk hg
    rw [plain leaf hl word ht] at hk
    cases hk

/-- A path keyword is declared in a use tree exactly where `self` stands for it. -/
theorem declare_mem_useNames {tree : Node} (plain : tree.HasPlainNames)
    (hk : isPathKeyword word = true) :
    .declare word ∈ useNames tree ↔ tree.NamesBySelf word := by
  rw [useNames_eq_parts, List.mem_flatMap]
  exact exists_congr fun part => and_congr_right fun hp => declare_mem_ownNames hk (plain part hp)

end Declared

end Outline

namespace ScopeStack

def HoldsNoKeyword (s : ScopeStack) : Prop :=
  ∀ frame ∈ s.frames, ∀ name ∈ frame.names, isPathKeyword name = false

instance (s : ScopeStack) : Decidable s.HoldsNoKeyword :=
  inferInstanceAs (Decidable (∀ frame ∈ s.frames, _))

theorem Tidy.holds_iff {s : ScopeStack} (h : s.Tidy) (name : String) :
    (∃ frame ∈ s.frames, name ∈ frame.names) ↔ s.isShadowed name = true := by
  rw [h.isShadowed_iff, mem_localNames, List.mem_flatMap]

theorem Tidy.holdsNoKeyword_iff {s : ScopeStack} (h : s.Tidy) :
    s.HoldsNoKeyword ↔ ∀ word, isPathKeyword word = true → s.isShadowed word = false := by
  constructor
  · intro free word hk
    apply Bool.eq_false_iff.mpr
    intro hs
    obtain ⟨frame, hf, hw⟩ := (h.holds_iff word).mpr hs
    simp [free frame hf word hw] at hk
  · intro free frame hf word hw
    apply Bool.eq_false_iff.mpr
    intro hk
    have hs := (h.holds_iff word).mp ⟨frame, hf, hw⟩
    simp [free word hk] at hs

end ScopeStack

namespace Survey

open Outline

/-- A use declaration makes local what its tree declares, and nothing stops it. -/
theorem isShadowed_behind_use {n tree : Node} (hn : n.kind = .useDeclaration)
    (ht : n.child? "argument" = some tree) (legible : tree.Legible) (p : Place) (after : List Node)
    (s : Survey) :
    ∃ t, Step.runAll (ofNode false p after n) s = (none, t) ∧ ∀ name,
      t.scopes.isShadowed name = true ↔
        s.scopes.isShadowed name = true ∨ .declare name ∈ useNames tree := by
  have ho : ofNode false p after n = useRoot tree ++ useNames tree := by
    rw [ofNode_eq, hn]
    simp only [ht, Option.elim_some]
  have hflat : IsFlat (ofNode false p after n) :=
    ho ▸ (isFlat_useRoot legible).append (isFlat_useNames tree legible)
  obtain ⟨t, hrun, hnames⟩ := s.isShadowed_runAll hflat
  refine ⟨t, hrun, fun name => ?_⟩
  rw [hnames, ho, List.mem_append, or_iff_right (declare_not_mem_useRoot tree)]

/-- A use declaration whose names and aliases are plain, read where no path keyword is local: the
path keywords that are local behind it are those that `self` stands for in a group. So all stay free
exactly where no group with `self` stands behind a path that ends with one. -/
theorem keywords_behind_use {n tree : Node} (hn : n.kind = .useDeclaration)
    (ht : n.child? "argument" = some tree) (texts : ∀ m ∈ tree.preorder, m.text.isSome = true)
    (plain : tree.HasPlainNames) {s : Survey} (tidy : s.scopes.Tidy)
    (free : s.scopes.HoldsNoKeyword) (p : Place) (after : List Node) :
    ∃ t, Step.runAll (ofNode false p after n) s = (none, t) ∧
      (∀ word, isPathKeyword word = true →
        ((∃ frame ∈ t.scopes.frames, word ∈ frame.names) ↔ tree.NamesBySelf word) ∧
          (t.scopes.isShadowed word = true ↔ tree.NamesBySelf word)) ∧
      ((t.scopes.HoldsNoKeyword ∧
          ∀ word, isPathKeyword word = true → t.scopes.isShadowed word = false) ↔
        ∀ word, isPathKeyword word = true → ¬tree.NamesBySelf word) := by
  obtain ⟨t, hrun, hnames⟩ :=
    s.isShadowed_behind_use hn ht (Node.legible_of_isSome texts) p after
  have htidy : t.scopes.Tidy := by
    have hleads : s.LeadsTo (Step.runAll (ofNode false p after n) s).2 :=
      Step.leadsTo_runAll .refl _
    rw [hrun] at hleads
    exact hleads.tidy tidy
  have hlocal : ∀ word, isPathKeyword word = true →
      (t.scopes.isShadowed word = true ↔ tree.NamesBySelf word) := by
    intro word hk
    rw [hnames, tidy.holdsNoKeyword_iff.mp free word hk, declare_mem_useNames plain hk]
    simp
  refine ⟨t, hrun, ?_, ?_⟩
  · intro word hk
    exact ⟨(htidy.holds_iff word).trans (hlocal word hk), hlocal word hk⟩
  · rw [htidy.holdsNoKeyword_iff, and_self]
    apply forall₂_congr
    intro word hk
    rw [← hlocal word hk, Bool.not_eq_true]

open Node in
/-- Behind `use self::a::{self, super::b as c, crate::{self, d::*}};`, in a test module of a file
with a local name, `crate` is local, and `self` and `super` are not. -/
theorem keywords_behind_nested_use :
    let crateGroup := worded .scopedUseList none "" [worded .crateWord (some "path") "crate" [],
      worded .useList (some "list") "" [worded .selfWord none "self" [],
        worded .useWildcard none "" [worded .identifier none "d" []]]]
    let rename := worded .useAsClause none "" [
      worded .scopedIdentifier (some "path") "" [worded .superWord (some "path") "super" [],
        worded .identifier (some "name") "b" []],
      worded .identifier (some "alias") "c" []]
    let tree := worded .scopedUseList (some "argument") "" [
      worded .scopedIdentifier (some "path") "" [worded .selfWord (some "path") "self" [],
        worded .identifier (some "name") "a" []],
      worded .useList (some "list") "" [worded .selfWord none "self" [], rename, crateGroup]]
    let n := worded .useDeclaration none "" [tree]
    let s := (({} : Survey).declare "x").push true
    (∀ m ∈ tree.preorder, m.text.isSome = true) ∧ tree.HasPlainNames ∧ s.scopes.Tidy ∧
      s.scopes.HoldsNoKeyword ∧
      ∃ t, Step.runAll (ofNode false {} [] n) s = (none, t) ∧
        t.scopes.isShadowed "crate" = true ∧ t.scopes.isShadowed "self" = false ∧
        t.scopes.isShadowed "super" = false := by
  intro crateGroup rename tree n s
  have texts : ∀ m ∈ tree.preorder, m.text.isSome = true := by decide
  have plain : tree.HasPlainNames := by decide
  have tidy : s.scopes.Tidy := (ScopeStack.tidy_empty.declare "x").push true
  have free : s.scopes.HoldsNoKeyword := by decide
  refine ⟨texts, plain, tidy, free, ?_⟩
  have hn : n.kind = .useDeclaration := rfl
  obtain ⟨t, hrun, hlocal, -⟩ := keywords_behind_use hn rfl texts plain tidy free {} []
  refine ⟨t, hrun, (hlocal "crate" rfl).2.mpr (by decide), ?_, ?_⟩
  · exact Bool.eq_false_iff.mpr fun h => absurd ((hlocal "self" rfl).2.mp h) (by decide)
  · exact Bool.eq_false_iff.mpr fun h => absurd ((hlocal "super" rfl).2.mp h) (by decide)

open Node in
/-- `use super::{self, x};` at the start of a file makes `super` local. `use super::super;`, whose
path ends with the same word, makes nothing local. -/
theorem super_hidden_by_group :
    let superNode := fun field => worded .superWord (some field) "super" []
    let group := worded .scopedUseList (some "argument") "" [superNode "path",
      worded .useList (some "list") "" [worded .selfWord none "self" [],
        worded .identifier none "x" []]]
    let path := worded .scopedIdentifier (some "argument") "" [superNode "path", superNode "name"]
    let behind := fun tree : Node =>
      Step.runAll (ofNode false {} [] (worded .useDeclaration none "" [tree])) {}
    (∀ m ∈ group.preorder, m.text.isSome = true) ∧ group.HasPlainNames ∧
      ({} : ScopeStack).HoldsNoKeyword ∧
      (behind group).1 = none ∧ (behind group).2.scopes.frames = [{ names := ["super", "x"] }] ∧
      (behind group).2.scopes.isShadowed "super" = true ∧
      (behind path).1 = none ∧ (behind path).2.scopes.frames = [{}] := by
  intro superNode group path behind
  exact ⟨by decide, by decide, by decide, rfl, rfl, rfl, rfl, rfl⟩

end Survey

end CrateUsage
