import CrateUsage.Tree

namespace CrateUsage.Node

theorem preorderAll_eq_flatMap (ns : List Node) : preorderAll ns = ns.flatMap preorder := by
  induction ns with
  | nil => rfl
  | cons n ns ih => simp [preorderAll, ih]

theorem preorder_eq (n : Node) : n.preorder = n :: n.children.flatMap preorder := by
  cases n
  simp [preorder, preorderAll_eq_flatMap]

theorem self_mem_preorder (n : Node) : n ∈ n.preorder := by
  rw [preorder_eq]
  exact List.mem_cons_self

theorem mem_preorder_of_child {n child m : Node} (hc : child ∈ n.children)
    (hm : m ∈ child.preorder) : m ∈ n.preorder := by
  rw [preorder_eq]
  exact List.mem_cons_of_mem _ (List.mem_flatMap.mpr ⟨child, hc, hm⟩)

theorem mem_children_of_child? {n child : Node} {field : String}
    (h : n.child? field = some child) : child ∈ n.children :=
  List.mem_of_find?_eq_some h

theorem field_of_child? {n child : Node} {field : String} (h : n.child? field = some child) :
    child.label.field = some field := by
  simpa using List.find?_some h

theorem mem_children_of_namedChildren {n child : Node} (h : child ∈ n.namedChildren) :
    child ∈ n.children :=
  (List.mem_filter.mp h).1

mutual
/-- By induction on the tree: a segment is a node of the path it is a segment of. -/
theorem mem_preorder_of_segments : ∀ (n : Node) {m : Node}, m ∈ n.segments → m ∈ n.preorder
  | .mk l cs, m, h => by
    simp only [segments] at h
    split at h
    · rcases List.mem_append.mp h with h | h
      · obtain ⟨child, hc, hm⟩ := mem_preorder_of_segmentsAt cs h
        exact mem_preorder_of_child hc hm
      · have hf := List.mem_of_find?_eq_some (Option.mem_toList.mp h)
        exact mem_preorder_of_child hf m.self_mem_preorder
    · split at h
      · obtain ⟨child, hc, hm⟩ := mem_preorder_of_segmentsAt cs h
        exact mem_preorder_of_child hc hm
      · split at h
        · rw [List.mem_singleton.mp h]
          exact self_mem_preorder _
        · cases h

theorem mem_preorder_of_segmentsAt : ∀ (ns : List Node) {field : String} {m : Node},
    m ∈ segmentsAt field ns → ∃ child ∈ ns, m ∈ child.preorder
  | [], _, _, h => by cases h
  | n :: ns, field, m, h => by
    simp only [segmentsAt] at h
    split at h
    · exact ⟨n, List.mem_cons_self, mem_preorder_of_segments n h⟩
    · obtain ⟨child, hc, hm⟩ := mem_preorder_of_segmentsAt ns h
      exact ⟨child, List.mem_cons_of_mem _ hc, hm⟩
end

mutual
theorem mem_preorder_trans : ∀ (n : Node) {m k : Node},
    m ∈ n.preorder → k ∈ m.preorder → k ∈ n.preorder
  | .mk l cs, m, k, hm, hk => by
    simp only [preorder] at hm ⊢
    rcases List.mem_cons.mp hm with rfl | hm
    · simpa only [preorder] using hk
    · exact List.mem_cons_of_mem _ (mem_preorderAll_trans cs hm hk)

theorem mem_preorderAll_trans : ∀ (ns : List Node) {m k : Node},
    m ∈ preorderAll ns → k ∈ m.preorder → k ∈ preorderAll ns
  | [], _, _, hm, _ => by cases hm
  | n :: ns, m, k, hm, hk => by
    simp only [preorderAll] at hm ⊢
    rcases List.mem_append.mp hm with hm | hm
    · exact List.mem_append_left _ (mem_preorder_trans n hm hk)
    · exact List.mem_append_right _ (mem_preorderAll_trans ns hm hk)
end

variable {P : Kind → Prop}

/-- Every node below and including this one has a text, except where `P` holds of its kind. -/
def Accounts (P : Kind → Prop) (n : Node) : Prop := ∀ m ∈ n.preorder, m.text = none → P m.kind

theorem Accounts.child {n child : Node} (h : n.Accounts P) (hc : child ∈ n.children) :
    child.Accounts P :=
  fun m hm => h m (mem_preorder_of_child hc hm)

theorem Accounts.child? {n child : Node} {field : String} (h : n.Accounts P)
    (hc : n.child? field = some child) : child.Accounts P :=
  h.child (mem_children_of_child? hc)

theorem Accounts.read {n : Node} (h : n.Accounts P) {kind : Kind} (he : n.read = .error kind) :
    P kind := by
  unfold Node.read at he
  split at he
  · cases he
  · rename_i ht
    cases he
    exact h n n.self_mem_preorder ht

theorem Accounts.mem {n m : Node} (h : n.Accounts P) (hm : m ∈ n.preorder) : m.Accounts P :=
  fun k hk => h k (mem_preorder_trans n hm hk)

theorem Accounts.firstSegment? {n m : Node} (h : n.Accounts P) (hm : n.firstSegment? = some m) :
    m.Accounts P :=
  h.mem (mem_preorder_of_segments n (List.mem_of_head? hm))

theorem Accounts.lastSegment? {n m : Node} (h : n.Accounts P) (hm : n.lastSegment? = some m) :
    m.Accounts P :=
  h.mem (mem_preorder_of_segments n (List.mem_of_getLast? hm))

/-- Every node of the tree has a text. -/
abbrev Legible (n : Node) : Prop := n.Accounts fun _ => False

theorem legible_of_isSome {n : Node} (h : ∀ m ∈ n.preorder, m.text.isSome = true) : n.Legible := by
  intro m hm ht
  simpa [ht] using h m hm

theorem Legible.isSome_text {n m : Node} (h : n.Legible) (hm : m ∈ n.preorder) :
    m.text.isSome = true := by
  cases ht : m.text with
  | some text => rfl
  | none => exact (h m hm ht).elim

theorem legible_mk {l : Label} {cs : List Node} (hl : l.text.isSome = true)
    (h : ∀ c ∈ cs, c.Legible) : (mk l cs).Legible := by
  intro m hm ht
  rw [preorder_eq] at hm
  rcases List.mem_cons.mp hm with rfl | hm
  · change l.text = none at ht
    rw [ht] at hl
    cases hl
  · obtain ⟨c, hc, hm⟩ := List.mem_flatMap.mp hm
    exact h c hc m hm ht

def worded (kind : Kind) (field : Option String) (text : String) (children : List Node) : Node :=
  .mk { kind, field, text := some text } children

def twoSegments (field : Option String) (first second : String) : Node :=
  worded .scopedIdentifier field (first ++ "::" ++ second)
    [worded .identifier (some "path") first [], worded .identifier (some "name") second []]

def testModule (inside : List Node) : List Node :=
  [worded .attributeItem none "" [
      worded .attributeBody none "" [
        worded .identifier none "cfg" [],
        worded .tokenTree (some "arguments") "" [
          worded .openParen none "(" [], worded .identifier none "test" [],
          worded .closeParen none ")" []]]],
    worded .modItem none "" [
      worded .identifier (some "name") "tests" [],
      worded .declarationList (some "body") "" inside]]

end CrateUsage.Node
