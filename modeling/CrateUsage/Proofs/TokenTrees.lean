import CrateUsage.Proofs.ExchangedOutlines
import CrateUsage.Proofs.Meaning
import CrateUsage.Proofs.Tree

namespace CrateUsage

def Kind.isSilent : Kind → Bool
  | .useDeclaration | .externCrateDeclaration | .modItem | .functionItem | .block | .attributeItem
  | .attributeBody | .scopedIdentifier | .scopedTypeIdentifier => false
  | _ => true

namespace Outline

mutual
/-- By induction on the tree: where no node says anything, there is nothing to say. -/
theorem ofNode_silent (asPath : Bool) (p : Place) (after : List Node) : ∀ n : Node,
    (∀ m ∈ n.preorder, m.kind.isSilent = true) → ofNode asPath p after n = []
  | .mk l cs, h => by
    have hc : ∀ choice, ofChildren choice (p.below l.kind) cs = [] := fun choice =>
      ofChildren_silent choice _ cs fun c hc m hm => h m (Node.mem_preorder_of_child hc hm)
    have hk : (Node.mk l cs).kind.isSilent = true := h _ (Node.self_mem_preorder _)
    rw [ofNode_eq_saying]
    unfold saying
    generalize hkind : (Node.mk l cs).kind = kind at hk
    have hl : l.kind = kind := hkind
    rw [hl] at hc
    simp only [Node.children_mk, hc, List.append_nil, ite_self]
    cases asPath <;> cases kind <;> first | rfl | cases hk

theorem ofChildren_silent (choice : Choice) (p : Place) : ∀ ns : List Node,
    (∀ n ∈ ns, ∀ m ∈ n.preorder, m.kind.isSilent = true) → ofChildren choice p ns = []
  | [], _ => rfl
  | n :: ns, h => by
    have hn := ofNode_silent choice.asPath p ns n (h n List.mem_cons_self)
    have hs := ofChildren_silent choice (p.behind n) ns fun m hm => h m (List.mem_cons_of_mem _ hm)
    by_cases he : choice = .every
    · subst he
      rw [ofChildren_every_cons, hs, List.append_nil]
      split
      · exact hn
      · rfl
    · rw [ofChildren_cons he, hn, hs, ite_self]
end

end Outline

namespace Node

/-- A node that holds tokens and token trees, and no part of a program. -/
def HoldsTokens (n : Node) : Prop :=
  ∀ c ∈ n.children, ∀ m ∈ c.preorder, m.kind.isSilent = true

/-- Two token trees at the same place, whatever tokens they hold. A token tree is not one of these
where the node above it looks for a word among its tokens. -/
structure DifferInTokens (looked : Bool) (n m : Node) : Prop where
  unlooked : looked = false
  kind : n.kind = .tokenTree
  essence : m.label.essence = n.label.essence
  tokens : n.HoldsTokens
  tokensToo : m.HoldsTokens

/-- The trees differ in nothing but the tokens of such token trees. -/
abbrev SameOutsideTokens (a b : Node) : Prop := Exchanged DifferInTokens false a b

theorem admissible_differInTokens : Admissible DifferInTokens where
  outside := by
    intro looked n m h
    have hkind : m.kind = n.kind := Label.kind_of_essence h.essence
    have hnamed : m.named = n.named := Label.named_of_essence h.essence
    refine ⟨by rw [h.kind]; rfl, by rw [hkind, h.kind]; rfl, hnamed,
      Label.field_of_essence h.essence, ?_, fun hw => ?_⟩
    · simp only [line, Label.row_of_essence h.essence]
    · obtain ⟨l, cs⟩ := n
      obtain ⟨k, ds⟩ := m
      exact read_of_essence h.essence hw cs ds
  hasSelf := fun h => by cases h.unlooked
  saysTest := fun h => by cases h.unlooked

theorem HoldsTokens.ofNode_eq {n : Node} (h : n.HoldsTokens) (hk : n.kind = .tokenTree)
    (asPath : Bool) (p : Outline.Place) (after : List Node) :
    Outline.ofNode asPath p after n = [] := by
  refine Outline.ofNode_silent asPath p after n fun m hm => ?_
  rw [preorder_eq] at hm
  rcases List.mem_cons.mp hm with rfl | hm
  · rw [hk]
    rfl
  · obtain ⟨c, hc, hmc⟩ := List.mem_flatMap.mp hm
    exact h c hc m hmc

/-- Token trees say nothing, whatever tokens they hold. -/
theorem saysRelated_differInTokens : Outline.SaysRelated (· = ·) DifferInTokens := by
  intro looked n m h asPath p q _ after rest
  have hkind : m.kind = n.kind := Label.kind_of_essence h.essence
  rw [h.tokens.ofNode_eq h.kind, h.tokensToo.ofNode_eq (hkind.trans h.kind)]

/-- The tokens that macros and attributes are given make no difference: trees that differ in nothing
else come to the same crates, on the same lines, and to the same hints, or stop at the same fault. -/
theorem discover_sameOutsideTokens {a b : Node} (h : a.SameOutsideTokens b) :
    b.discover = a.discover := by
  have ho : a.outline = b.outline :=
    h.outline admissible_differInTokens Outline.compatible_eq saysRelated_differInTokens
  rw [discover_eq_outline, discover_eq_outline, ho]

/-- A path among the tokens of a macro is no reference to a crate. -/
theorem discover_besideTokens :
    let around := fun tokens : List Node => worded .sourceFile none ""
      [worded (.other "macro_invocation") none "" [worded .identifier (some "macro") "vec" [],
          worded .tokenTree none "" tokens],
        twoSegments none "rand" "random"]
    let a := around [worded .openParen none "(" [], worded .identifier none "regex" [],
      worded (.other "::") none "::" [], worded .identifier none "Regex" [],
      worded .closeParen none ")" []]
    let b := around [worded .openParen none "(" [], worded .closeParen none ")" []]
    a.SameOutsideTokens b ∧ b.discover = a.discover ∧
      a.discover.toOption.map (·.normal) = some ["rand"] := by
  intro around a b
  have hsame : a.SameOutsideTokens b := by
    refine .within rfl (.cons (.within rfl ?_) (.refl _ _ _))
    have htokens : ∀ tokens : List Node, (tokens.flatMap preorder).all (·.kind.isSilent) = true →
        (worded .tokenTree none "" tokens).HoldsTokens :=
      fun _ h c hc m hm => List.all_eq_true.mp h m (List.mem_flatMap.mpr ⟨c, hc, hm⟩)
    exact .cons (.refl _ _ _) (.cons
      (.here ⟨rfl, rfl, rfl, htokens _ (by decide), htokens _ (by decide)⟩) .nil)
  exact ⟨hsame, discover_sameOutsideTokens hsame, by rfl⟩

end Node
end CrateUsage
