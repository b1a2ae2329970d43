import CrateUsage.Proofs.Attributes
import CrateUsage.Proofs.Surface
import CrateUsage.Proofs.TestBodies
import Mathlib.Data.List.Forall2

namespace CrateUsage

def Kind.holdsItems : Kind → Bool
  | .sourceFile | .declarationList | .block => true
  | _ => false

namespace Node

/-- The attribute item `#[cfg(test)]` if the item below it is a module, and `#[test]` if that is a
function. -/
structure IsTestMark (item : Kind) (mark : Node) : Prop where
  kind : mark.kind = .attributeItem
  named : mark.named = true
  legible : mark.Legible
  only : ∃ a path rest, mark.namedChildren = [a] ∧ a.kind = .attributeBody ∧
    a.namedChildren = path :: rest ∧ path.kind = .identifier ∧ path.children = [] ∧
    (item = .modItem ∧ Attribute.isCfgTest a = .ok true ∨
      item = .functionItem ∧ Attribute.name a = .ok (some "test"))

mutual
/-- The second tree is the first with test marks put directly before some of its modules and
functions. -/
inductive Marked : Node → Node → Prop
  | mk {l : Label} {cs ds : List Node} (h : MarkedRow l.kind cs ds) : Marked (.mk l cs) (.mk l ds)

inductive MarkedRow : Kind → List Node → List Node → Prop
  | nil {kind : Kind} : MarkedRow kind [] []
  | cons {kind : Kind} {n m : Node} {ns ms : List Node} (hn : Marked n m)
      (hs : MarkedRow kind ns ms) : MarkedRow kind (n :: ns) (m :: ms)
  | mark {kind : Kind} {n m mark : Node} {ns ms : List Node} (hk : kind.holdsItems = true)
      (hm : IsTestMark n.kind mark) (hn : Marked n m) (hs : MarkedRow kind ns ms) :
      MarkedRow kind (n :: ns) (mark :: m :: ms)
end

mutual
theorem Marked.refl : ∀ n : Node, Marked n n
  | .mk l cs => .mk (MarkedRow.refl l.kind cs)

theorem MarkedRow.refl (kind : Kind) : ∀ ns : List Node, MarkedRow kind ns ns
  | [] => .nil
  | n :: ns => .cons (Marked.refl n) (MarkedRow.refl kind ns)
end

theorem MarkedRow.behind {kind : Kind} (before : List Node) {ns ms : List Node}
    (h : MarkedRow kind ns ms) : MarkedRow kind (before ++ ns) (before ++ ms) := by
  induction before with
  | nil => exact h
  | cons n before ih => exact .cons (.refl n) ih

/-- One mark, put before one item of a row. -/
theorem Marked.here {l : Label} {item mark : Node} (hl : l.kind.holdsItems = true)
    (hm : IsTestMark item.kind mark) (before after : List Node) :
    Marked (Node.mk l (before ++ item :: after)) (Node.mk l (before ++ mark :: item :: after)) :=
  .mk ((MarkedRow.mark hl hm (.refl item) (.refl l.kind after)).behind before)

/-- Marks within one node of a row. -/
theorem Marked.within {n m : Node} (h : Marked n m) (l : Label) (before after : List Node) :
    Marked (Node.mk l (before ++ n :: after)) (Node.mk l (before ++ m :: after)) :=
  .mk ((MarkedRow.cons h (.refl l.kind after)).behind before)

section Marked

variable {n m : Node}

theorem Marked.label_eq (h : Marked n m) : m.label = n.label := by
  cases h
  rfl

theorem Marked.kind_eq (h : Marked n m) : m.kind = n.kind := congrArg Label.kind h.label_eq

theorem Marked.named_eq (h : Marked n m) : m.named = n.named := congrArg Label.named h.label_eq

theorem Marked.word_eq (h : Marked n m) : m.word = n.word := by
  simp only [word, text, h.label_eq]

theorem Marked.line_eq (h : Marked n m) : m.line = n.line := by
  simp only [line, h.label_eq]

theorem Marked.children (h : Marked n m) : MarkedRow n.kind n.children m.children := by
  cases h with
  | mk h => exact h

/-- Items are marked only where items may stand. -/
theorem MarkedRow.forall₂ : ∀ {kind : Kind} {ns ms : List Node}, MarkedRow kind ns ms →
    kind.holdsItems = false → List.Forall₂ Marked ns ms
  | _, [], _, .nil, _ => .nil
  | _, _ :: _, _, .cons hn hs, hk => .cons hn (hs.forall₂ hk)
  | _, _ :: _, _, .mark ht _ _ _, hk => by
    rw [hk] at ht
    cases ht

theorem isDecoration_of_mark {item : Kind} {mark : Node} (h : IsTestMark item mark) :
    mark.isDecoration = true := by
  simp [isDecoration, h.kind]

theorem isItem_of_mark {item : Kind} {mark : Node} (h : IsTestMark item mark) :
    item.isItem = true := by
  obtain ⟨a, path, rest, -, -, -, -, -, ⟨rfl, -⟩ | ⟨rfl, -⟩⟩ := h.only <;> rfl

/-- A row without items has the same labels, and no other row is free of marks and items. -/
theorem MarkedRow.labels : ∀ {kind : Kind} {ns ms : List Node}, MarkedRow kind ns ms →
    ms.map label = ns.map label ∨
      (∃ n ∈ ns, n.kind.isItem = true) ∧ ∃ m ∈ ms, m.kind = .attributeItem
  | _, [], _, .nil => .inl rfl
  | _, n :: ns, m :: ms, .cons hn hs => by
    rcases hs.labels with he | ⟨⟨i, hi, hk⟩, ⟨a, ha, hq⟩⟩
    · exact .inl (by rw [List.map_cons, List.map_cons, hn.label_eq, he])
    · exact .inr ⟨⟨i, List.mem_cons_of_mem _ hi, hk⟩, ⟨a, List.mem_cons_of_mem _ ha, hq⟩⟩
  | _, n :: ns, a :: _, .mark _ hm _ _ =>
    .inr ⟨⟨n, List.mem_cons_self, isItem_of_mark hm⟩, ⟨a, List.mem_cons_self, hm.kind⟩⟩

theorem Marked.isOwned_cons (h : Marked n m) {above : List Kind} {ns ms : List Node}
    (hs : isOwned above ms = isOwned above ns) :
    isOwned above (m :: ms) = isOwned above (n :: ns) := by
  have hd : m.isDecoration = n.isDecoration := by simp only [isDecoration, h.kind_eq]
  have ho : m.ownsAttributes above = n.ownsAttributes above := by
    simp only [ownsAttributes, h.kind_eq]
  unfold isOwned at hs ⊢
  rw [decorated?_cons, decorated?_cons, h.named_eq, hd]
  split
  · exact ho
  · exact hs

/-- A mark parts no attribute from its item. -/
theorem MarkedRow.isOwned (above : List Kind) : ∀ {kind : Kind} {ns ms : List Node},
    MarkedRow kind ns ms → isOwned above ms = isOwned above ns
  | _, [], _, .nil => rfl
  | _, _ :: _, _, .cons hn hs => hn.isOwned_cons (hs.isOwned above)
  | _, _ :: _, _, .mark _ hm hn hs => by
    rw [← hn.isOwned_cons (hs.isOwned above), Node.isOwned, decorated?_cons,
      isDecoration_of_mark hm, Bool.not_true, Bool.and_false, if_neg Bool.false_ne_true]
    rfl

end Marked

mutual
/-- By induction on the tree: a mark can be read, so where the first tree can be read the second can
be too. -/
theorem Marked.legible : ∀ {n m : Node}, Marked n m → n.Legible → m.Legible
  | .mk l cs, .mk _ ds, .mk h, ht => by
    have hd := h.legible fun c hc => ht.child hc
    intro k hk
    rw [preorder_eq] at hk
    rcases List.mem_cons.mp hk with rfl | hk
    · exact ht (.mk l cs) (self_mem_preorder _)
    · obtain ⟨d, hdm, hkd⟩ := List.mem_flatMap.mp hk
      exact hd d hdm k hkd

theorem MarkedRow.legible : ∀ {kind : Kind} {ns ms : List Node}, MarkedRow kind ns ms →
    (∀ n ∈ ns, n.Legible) → ∀ m ∈ ms, m.Legible
  | _, [], _, .nil, _ => List.forall_mem_nil _
  | _, _ :: _, _, .cons hn hs, ht =>
    have ⟨htn, hts⟩ := List.forall_mem_cons.mp ht
    List.forall_mem_cons.mpr ⟨hn.legible htn, hs.legible hts⟩
  | _, _ :: _, _, .mark _ hm hn hs, ht =>
    have ⟨htn, hts⟩ := List.forall_mem_cons.mp ht
    List.forall_mem_cons.mpr
      ⟨hm.legible, List.forall_mem_cons.mpr ⟨hn.legible htn, hs.legible hts⟩⟩
end

theorem holdsItems_of_isScopedPath {kind : Kind} (h : kind.isScopedPath = true) :
    kind.holdsItems = false := by
  cases kind <;> first | rfl | cases h

section Unchanged

variable {α : Type} {f : Node → α} {n m : Node}

/-- What marks do not change of a node they do not change of a child either, unless the row holds
items. -/
theorem find?_marked (hf : ∀ n m, Marked n m → f m = f n) (q : Label → Bool) {ns ms : List Node}
    (h : List.Forall₂ Marked ns ms) :
    (ms.find? (q ·.label)).map f = (ns.find? (q ·.label)).map f := by
  induction h with
  | nil => rfl
  | cons hn _ ih =>
    rw [List.find?_cons, List.find?_cons, hn.label_eq]
    split
    · exact congrArg some (hf _ _ hn)
    · exact ih

variable (h : Marked n m) (hk : n.kind.holdsItems = false)

include h hk

theorem Marked.child? (hf : ∀ n m, Marked n m → f m = f n) (field : String) :
    (m.child? field).map f = (n.child? field).map f :=
  find?_marked hf (·.field == some field) (h.children.forall₂ hk)

theorem Marked.firstNamed (hf : ∀ n m, Marked n m → f m = f n) :
    m.namedChildren.head?.map f = n.namedChildren.head?.map f := by
  unfold namedChildren
  rw [List.head?_filter, List.head?_filter]
  exact find?_marked hf (·.named) (h.children.forall₂ hk)

end Unchanged

mutual
/-- By induction on the path: no row of items is a part of it. -/
theorem Marked.segments : ∀ {n m : Node}, Marked n m →
    m.segments.map label = n.segments.map label
  | .mk l cs, .mk _ ds, .mk h => by
    have hm := Marked.mk h
    have hat := fun field hk => h.segmentsAt field hk
    rw [segments_eq, segments_eq (Node.mk l cs), hm.kind_eq]
    by_cases hp : (Node.mk l cs).kind.isScopedPath = true
    · have hk := holdsItems_of_isScopedPath hp
      have hn := hm.child? hk (fun _ _ => Marked.label_eq) "name"
      rw [if_pos hp, if_pos hp, List.map_append, List.map_append, ← Option.toList_map,
        ← Option.toList_map, hn]
      exact congrArg (· ++ _) (hat "path" hk)
    · rw [if_neg hp, if_neg hp]
      by_cases hg : (Node.mk l cs).kind = .genericType
      · rw [if_pos hg, if_pos hg]
        exact hat "type" (by rw [show l.kind = .genericType from hg]; rfl)
      · rw [if_neg hg, if_neg hg]
        split <;> rfl

theorem MarkedRow.segmentsAt : ∀ {kind : Kind} {ns ms : List Node}, MarkedRow kind ns ms →
    ∀ field, kind.holdsItems = false →
      (segmentsAt field ms).map label = (segmentsAt field ns).map label
  | _, [], _, .nil, _, _ => rfl
  | _, n :: ns, _, .cons hn hs, field, hk => by
    simp only [Node.segmentsAt, hn.label_eq]
    split
    · exact hn.segments
    · exact hs.segmentsAt field hk
  | _, _ :: _, _, .mark ht _ _ _, _, hk => by
    rw [hk] at ht
    cases ht
end

theorem Marked.firstSegment? {n m : Node} (h : Marked n m) :
    m.firstSegment?.map label = n.firstSegment?.map label := by
  simp only [Node.firstSegment?, ← List.head?_map, h.segments]

theorem Marked.lastSegment? {n m : Node} (h : Marked n m) :
    m.lastSegment?.map label = n.lastSegment?.map label := by
  simp only [Node.lastSegment?, ← List.getLast?_map, h.segments]

/-- No mark is the word `self`. -/
theorem Marked.hasSelf {n m : Node} (h : Marked n m) :
    m.namedChildren.any (·.kind = .selfWord) = n.namedChildren.any (·.kind = .selfWord) := by
  have hrow : ∀ {kind : Kind} {ns ms : List Node}, MarkedRow kind ns ms →
      (ms.filter named).any (·.kind = .selfWord) = (ns.filter named).any (·.kind = .selfWord) := by
    intro kind ns
    induction ns with
    | nil =>
      intro ms h
      cases h
      rfl
    | cons n ns ih =>
      intro ms h
      simp only [List.any_filter] at ih ⊢
      cases h with
      | cons hn hs => simp only [List.any_cons, ih hs, hn.named_eq, hn.kind_eq]
      | mark _ hm hn hs => simp [ih hs, hn.named_eq, hn.kind_eq, hm.kind]
  exact hrow h.children

end Node

namespace Attribute

def isTestList : List Node → Bool
  | [opening, argument, closing] =>
    opening.kind = .openParen && closing.kind = .closeParen && argument.kind = .identifier &&
      argument.word = "test"
  | _ => false

theorem marksTests_eq (a : Node) :
    marksTests a = (decide (word a = some "cfg") &&
      ((a.child? "arguments").map fun list => isTestList list.children).getD false) := by
  unfold marksTests
  congr 1
  cases a.child? "arguments" with
  | none => rfl
  | some list =>
    simp only [Option.map_some, Option.getD_some]
    rcases list.children with _ | ⟨_, _ | ⟨_, _ | ⟨_, _ | _⟩⟩⟩ <;> rfl

theorem word_eq (a : Node) :
    word a = (a.namedChildren.head?.map fun path => (path.kind, path.word)).bind fun path =>
      if path.1 = .identifier then some path.2 else none := by
  unfold word
  cases a.namedChildren <;> rfl

/-- The tokens of `(test)` are neither items nor attributes. -/
theorem isTestList_eq_false {ns : List Node} {n : Node} (hn : n ∈ ns)
    (hk : n.kind.isItem = true ∨ n.kind = .attributeItem) : isTestList ns = false := by
  rcases ns with _ | ⟨opening, _ | ⟨argument, _ | ⟨closing, _ | _⟩⟩⟩ <;> try rfl
  simp only [isTestList]
  simp only [List.mem_cons, List.not_mem_nil, or_false] at hn
  rcases hn with rfl | rfl | rfl <;> rcases hk with hk | hk <;>
    cases hkind : n.kind <;> simp_all [Kind.isItem]

theorem isTestList_congr {ns ms : List Node} (h : ms.map Node.label = ns.map Node.label) :
    isTestList ms = isTestList ns := by
  have hl : ∀ ns : List Node, isTestList ns =
      isTestList ((ns.map Node.label).map (.mk · [])) := by
    intro ns
    rcases ns with _ | ⟨opening, _ | ⟨argument, _ | ⟨closing, _ | _⟩⟩⟩ <;> rfl
  rw [hl ms, h, ← hl]

theorem isTestList_marked (n m : Node) (h : n.Marked m) :
    isTestList m.children = isTestList n.children := by
  rcases h.children.labels with he | ⟨⟨i, hi, hk⟩, ⟨a, ha, hq⟩⟩
  · exact isTestList_congr he
  · rw [isTestList_eq_false hi (.inl hk), isTestList_eq_false ha (.inr hq)]

section Marked

variable {a b : Node} (h : a.Marked b) (hk : a.kind = .attributeBody)

include h hk

theorem word_marked : word b = word a := by
  have hpath : b.namedChildren.head?.map (fun path => (path.kind, path.word)) =
      a.namedChildren.head?.map fun path => (path.kind, path.word) :=
    h.firstNamed (by rw [hk]; rfl) fun _ _ hp => by rw [hp.kind_eq, hp.word_eq]
  rw [word_eq, word_eq a, hpath]

theorem marksTests_marked : marksTests b = marksTests a := by
  have hlist := h.child? (by rw [hk]; rfl) isTestList_marked "arguments"
  rw [marksTests_eq, marksTests_eq a, word_marked h hk, hlist]

end Marked

end Attribute
end CrateUsage
