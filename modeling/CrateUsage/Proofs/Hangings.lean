import CrateUsage.Proofs.Surface
import CrateUsage.Proofs.TestBodies
import CrateUsage.Proofs.Tree

namespace CrateUsage.Node

mutual
/-- What hangs off a path beside its segments, leftmost first: a prefix that is no path, and the
generic arguments of each part. -/
def hangings : Node → List Node
  | .mk l cs =>
    if l.kind.isSegment then []
    else if l.kind.isScopedPath then hangingsAt "path" cs
    else if l.kind = .genericType then
      hangingsAt "type" cs ++ (cs.find? (·.label.field == some "type_arguments")).toList
    else [.mk l cs]

def hangingsAt (field : String) : List Node → List Node
  | [] => []
  | n :: ns => if n.label.field == some field then n.hangings else hangingsAt field ns
end

theorem hangings_eq (n : Node) :
    n.hangings =
      if n.kind.isSegment then []
      else if n.kind.isScopedPath then hangingsAt "path" n.children
      else if n.kind = .genericType then
        hangingsAt "type" n.children ++ (n.child? "type_arguments").toList
      else [n] := by
  cases n
  rfl

mutual
/-- By induction on the path: what hangs off a path is a part of it. -/
theorem mem_preorder_of_hangings : ∀ (n : Node) {m : Node}, m ∈ n.hangings → m ∈ n.preorder
  | .mk l cs, m, h => by
    have hat : ∀ field, m ∈ hangingsAt field cs → m ∈ (Node.mk l cs).preorder := by
      intro field h
      obtain ⟨child, hc, hm⟩ := mem_preorder_of_hangingsAt cs h
      exact mem_preorder_of_child hc hm
    simp only [hangings] at h
    split at h
    · cases h
    · split at h
      · exact hat _ h
      · split at h
        · rcases List.mem_append.mp h with h | h
          · exact hat _ h
          · have hf := List.mem_of_find?_eq_some (Option.mem_toList.mp h)
            exact mem_preorder_of_child hf m.self_mem_preorder
        · rw [List.mem_singleton.mp h]
          exact self_mem_preorder _

theorem mem_preorder_of_hangingsAt : ∀ (ns : List Node) {field : String} {m : Node},
    m ∈ hangingsAt field ns → ∃ child ∈ ns, m ∈ child.preorder
  | [], _, _, h => by cases h
  | n :: ns, field, m, h => by
    simp only [hangingsAt] at h
    split at h
    · exact ⟨n, List.mem_cons_self, mem_preorder_of_hangings n h⟩
    · obtain ⟨child, hc, hm⟩ := mem_preorder_of_hangingsAt ns h
      exact ⟨child, List.mem_cons_of_mem _ hc, hm⟩
end

/-- The segment of a path that may name a crate. A path of one segment names none. -/
def lead (n : Node) : List Node :=
  match n.segments with
  | first :: _ :: _ => [first]
  | _ => []

theorem mem_preorder_of_lead {n m : Node} (h : m ∈ n.lead) : m ∈ n.preorder := by
  refine mem_preorder_of_segments n ?_
  unfold lead at h
  split at h
  · rename_i hs
    rw [List.mem_singleton.mp h, hs]
    exact List.mem_cons_self
  · cases h

end CrateUsage.Node
