import CrateUsage.Proofs.Hangings
import CrateUsage.Proofs.LexicalReading
import CrateUsage.Proofs.Sightings

namespace CrateUsage

mutual
def Step.lines : Step → List Int
  | .refer _ line => [line]
  | .declare _ | .unreadable _ => []
  | .scope _ body => linesAll body
  | .function _ _ body => linesAll body

def Step.linesAll : List Step → List Int
  | [] => []
  | step :: steps => step.lines ++ linesAll steps
end

theorem Step.linesAll_append (a b : List Step) :
    Step.linesAll (a ++ b) = Step.linesAll a ++ Step.linesAll b := by
  induction a with
  | nil => rfl
  | cons step steps ih => simp [Step.linesAll, ih]

mutual
/-- By induction on the steps: references that do not count leave no line behind. -/
theorem Step.sublist_sightings : ∀ (step : Step) (s : Survey),
    ((step.sightings s).map Record.line).Sublist (step.lines.map some)
  | .refer name line, s => by
    simp only [Step.sightings, Step.lines]
    split
    · exact List.nil_sublist _
    · exact .refl _
  | .declare _, _ => List.nil_sublist _
  | .unreadable _, _ => List.nil_sublist _
  | .scope _ body, _ => Step.sublist_sightingsAll body _
  | .function name markers body, s => by
    simp only [Step.sightings, Step.lines]
    split
    · exact Step.sublist_sightingsAll body _
    · exact List.nil_sublist _

theorem Step.sublist_sightingsAll : ∀ (steps : List Step) (s : Survey),
    ((Step.sightingsAll steps s).map Record.line).Sublist ((Step.linesAll steps).map some)
  | [], _ => .refl _
  | step :: steps, s => by
    simp only [Step.sightingsAll, Step.linesAll, List.map_append]
    refine (Step.sublist_sightings step s).append ?_
    split
    · exact Step.sublist_sightingsAll steps _
    · exact List.nil_sublist _
end

namespace Node

def NoLater (n m : Node) : Prop := n.line ≤ m.line

instance : DecidableRel NoLater := fun n m => inferInstanceAs (Decidable (n.line ≤ m.line))

/-- The first segment of a path stands no later than what hangs off the path, which is no item and
stands in its order; and the path before a group stands no later than the group. -/
def LeadsInOrder (n : Node) : Prop :=
  (n.kind.isScopedPath = true →
    (∀ m ∈ n.hangings, m.kind.isItem = false) ∧
      (n.lead ++ n.hangings.flatMap preorder).Pairwise NoLater) ∧
  (n.kind = .scopedUseList →
    ∀ path ∈ n.child? "path", ∀ items ∈ n.child? "list", path.NoLater items)

instance (n : Node) : Decidable n.LeadsInOrder := inferInstanceAs (Decidable (_ ∧ _))

/-- Nodes in the order of a file: no line goes down, and each node reads on in that order. -/
structure Orderly (ns : List Node) : Prop where
  lines : ns.Pairwise NoLater
  comments : ∀ n ∈ ns, n.kind.isComment = true → n.children = []
  attributes : ∀ n ∈ ns, n.kind = .attributeItem → n.attributesHeld.length ≤ 1
  leads : ∀ n ∈ ns, n.LeadsInOrder

theorem Orderly.of_subset {ns ms : List Node} (h : Orderly ns) (hs : ms ⊆ ns)
    (hl : ms.Pairwise NoLater) : Orderly ms where
  lines := hl
  comments n hn := h.comments n (hs hn)
  attributes n hn := h.attributes n (hs hn)
  leads n hn := h.leads n (hs hn)

theorem Orderly.sublist {ns ms : List Node} (h : Orderly ns) (hs : ms.Sublist ns) :
    Orderly ms :=
  h.of_subset hs.subset (h.lines.sublist hs)

theorem sublist_preorder_children (n : Node) :
    (n.children.flatMap preorder).Sublist n.preorder := by
  rw [n.preorder_eq]
  exact List.sublist_cons_self _ _

theorem Orderly.children {n : Node} (h : Orderly n.preorder) :
    Orderly (n.children.flatMap preorder) :=
  h.sublist n.sublist_preorder_children

theorem mem_preorder_of_child? {n child : Node} {field : String}
    (h : n.child? field = some child) : child ∈ n.preorder :=
  mem_preorder_of_child (mem_children_of_child? h) child.self_mem_preorder

theorem sublist_flatMap_preorder {ns : List Node} {n : Node} (h : n ∈ ns) :
    n.preorder.Sublist (ns.flatMap preorder) := by
  induction ns with
  | nil => cases h
  | cons m ns ih =>
    rw [List.flatMap_cons]
    rcases List.mem_cons.mp h with rfl | h
    · exact List.sublist_append_left _ _
    · exact (ih h).trans (List.sublist_append_right _ _)

theorem Orderly.child {n child : Node} (h : Orderly n.preorder) (hc : child ∈ n.children) :
    Orderly child.preorder :=
  h.children.sublist (sublist_flatMap_preorder hc)

end Node

namespace Outline

open Node (NoLater Orderly isOwned)

/-- The lines of an outline go up only, and each is that of one of the nodes. -/
structure Ascends (o : Outline) (ns : List Node) : Prop where
  sorted : (Step.linesAll o).Pairwise (· ≤ ·)
  within : ∀ line ∈ Step.linesAll o, ∃ n ∈ ns, n.line = line

section Ascends

variable {a b o : Outline} {ns ms : List Node}

theorem ascends_silent (h : Step.linesAll o = []) (ns : List Node) : Ascends o ns := by
  refine ⟨?_, ?_⟩
  · rw [h]
    exact .nil
  · rw [h]
    exact fun line hl => nomatch hl

theorem Ascends.mono (h : Ascends o ns) (hs : ns ⊆ ms) : Ascends o ms where
  sorted := h.sorted
  within line hl := by
    obtain ⟨n, hn, hline⟩ := h.within line hl
    exact ⟨n, hs hn, hline⟩

theorem Ascends.among {n : Node} (h : Ascends o [n]) (hn : n ∈ ns) : Ascends o ns :=
  h.mono fun _ hm => List.mem_singleton.mp hm ▸ hn

theorem Ascends.append (h : Ascends a ns) (g : Ascends b ms) (hs : (ns ++ ms).Pairwise NoLater) :
    Ascends (a ++ b) (ns ++ ms) where
  sorted := by
    rw [Step.linesAll_append, List.pairwise_append]
    refine ⟨h.sorted, g.sorted, fun i hi j hj => ?_⟩
    obtain ⟨n, hn, rfl⟩ := h.within i hi
    obtain ⟨m, hm, rfl⟩ := g.within j hj
    exact (List.pairwise_append.mp hs).2.2 n hn m hm
  within line hl := by
    rw [Step.linesAll_append] at hl
    rcases List.mem_append.mp hl with hl | hl
    · obtain ⟨n, hn, hline⟩ := h.within line hl
      exact ⟨n, List.mem_append_left _ hn, hline⟩
    · obtain ⟨m, hm, hline⟩ := g.within line hl
      exact ⟨m, List.mem_append_right _ hm, hline⟩

/-- What says nothing may stand before anything. -/
theorem Ascends.behind (h : Ascends b ns) (ha : Step.linesAll a = []) : Ascends (a ++ b) ns := by
  have hl : Step.linesAll (a ++ b) = Step.linesAll b := by rw [Step.linesAll_append, ha]; rfl
  exact ⟨hl ▸ h.sorted, hl ▸ h.within⟩

theorem Ascends.ahead (h : Ascends a ns) (hb : Step.linesAll b = []) : Ascends (a ++ b) ns := by
  have hl : Step.linesAll (a ++ b) = Step.linesAll a := by
    rw [Step.linesAll_append, hb, List.append_nil]
  exact ⟨hl ▸ h.sorted, hl ▸ h.within⟩

theorem Ascends.scope (h : Ascends o ns) (marked : Bool) : Ascends [.scope marked o] ns := by
  have hl : Step.linesAll [.scope marked o] = Step.linesAll o := List.append_nil _
  exact ⟨hl ▸ h.sorted, hl ▸ h.within⟩

theorem Ascends.function (h : Ascends o ns) (name : Option (Except Kind String))
    (markers : Except Kind Markers) : Ascends [.function name markers o] ns := by
  have hl : Step.linesAll [.function name markers o] = Step.linesAll o := List.append_nil _
  exact ⟨hl ▸ h.sorted, hl ▸ h.within⟩

theorem ascends_referring (segment : Option Node) (n : Node) :
    Ascends (referring segment n) [n] := by
  unfold referring readingOf reading
  split
  · split
    · exact ⟨List.pairwise_singleton _ _, fun line hl => ⟨n, List.mem_singleton.mpr rfl,
        (List.mem_singleton.mp hl).symm⟩⟩
    · exact ascends_silent rfl _
  · exact ascends_silent rfl _

theorem ascends_pathHead (n : Node) : Ascends (pathHead n.segments) n.lead := by
  unfold pathHead Node.lead
  rcases n.segments with _ | ⟨first, _ | ⟨second, others⟩⟩
  · exact ascends_silent rfl _
  · exact ascends_silent rfl _
  · exact ascends_referring _ first

theorem ascends_referringFirst (path : Option Node) :
    Ascends (referringFirst path) path.toList := by
  cases path with
  | none => exact ascends_silent rfl _
  | some path => exact ascends_referring path.firstSegment? path

theorem linesAll_declaring (n : Option Node) : Step.linesAll (declaring n) = [] := by
  unfold declaring readingOf reading
  split
  · split <;> rfl
  · rfl

theorem linesAll_declaringLast (path : Node) : Step.linesAll (declaringLast path) = [] := by
  unfold declaringLast
  split
  · rfl
  · split
    · split <;> rfl
    · rfl

theorem linesAll_declaringGroup (path items : Node) :
    Step.linesAll (declaringGroup path items) = [] := by
  unfold declaringGroup
  split
  · exact linesAll_declaring _
  · rfl

end Ascends

section UseTree

/-- What a use tree says where its children do so in order. -/
theorem ascends_useNames_of_children {n : Node}
    (hat : ∀ items ∈ n.child? "list", Ascends (useNames items) items.preorder)
    (hof : Ascends (useNamesOf n.children) (n.children.flatMap Node.preorder)) :
    Ascends (useNames n) n.preorder := by
  rw [useNames_eq]
  split
  · exact ascends_silent (linesAll_declaring _) _
  · exact ascends_silent (linesAll_declaringLast _) _
  · cases hp : n.child? "path" with
    | none => exact ascends_silent (linesAll_declaring _) _
    | some path =>
      exact ((ascends_referring _ path).among (Node.mem_preorder_of_child? hp)).ahead
        (linesAll_declaring _)
  · rw [useNamesAt_children]
    cases hi : n.child? "list" with
    | none => exact ascends_silent rfl _
    | some items =>
      have hm : items.preorder ⊆ n.preorder := fun m hm =>
        Node.mem_preorder_of_child (Node.mem_children_of_child? hi) hm
      refine ((hat items hi).mono hm).behind ?_
      cases n.child? "path" with
      | none => rfl
      | some path => exact linesAll_declaringGroup path items
  · exact hof.mono n.sublist_preorder_children.subset
  · exact ascends_silent rfl _

mutual
/-- By induction on the use tree: renamed segments are read in their order. -/
theorem ascends_useNames : ∀ n : Node, Orderly n.preorder → Ascends (useNames n) n.preorder
  | .mk l cs, h => by
    obtain ⟨hat, hof⟩ := ascends_useNamesAll cs h.children
    exact ascends_useNames_of_children (fun _ hi => hat _ (Node.mem_children_of_child? hi)) hof

theorem ascends_useNamesAll : ∀ ns : List Node, Orderly (ns.flatMap Node.preorder) →
    (∀ n ∈ ns, Ascends (useNames n) n.preorder) ∧
      Ascends (useNamesOf ns) (ns.flatMap Node.preorder)
  | [], _ => ⟨List.forall_mem_nil _, ascends_silent rfl _⟩
  | n :: ns, h => by
    rw [List.flatMap_cons] at h ⊢
    have hn := ascends_useNames n (h.sublist (List.sublist_append_left _ _))
    obtain ⟨hat, hof⟩ := ascends_useNamesAll ns (h.sublist (List.sublist_append_right _ _))
    refine ⟨List.forall_mem_cons.mpr ⟨hn, hat⟩, Ascends.append ?_ hof h.lines⟩
    split
    · exact hn
    · exact ascends_silent rfl _
end

/-- The path before a group stands before the names of the group. -/
theorem ascends_group {n : Node} (h : Orderly n.preorder) (hk : n.kind = .scopedUseList) :
    Ascends (referringFirst (n.child? "path") ++ useNames n) n.preorder := by
  cases hp : n.child? "path" with
  | none => exact (ascends_useNames n h).behind rfl
  | some path =>
    have hnames : useNames n = (n.child? "list").elim [] fun items =>
        declaringGroup path items ++ useNames items := by
      rw [useNames_eq, hk, useNamesAt_children, hp]
      cases n.child? "list" <;> rfl
    have hpath := (ascends_referringFirst (some path)).among (Node.mem_preorder_of_child? hp)
    rw [hnames]
    cases hi : n.child? "list" with
    | none => exact hpath.ahead rfl
    | some items =>
      have hm := Node.mem_children_of_child? hi
      have ho := h.child hm
      have hlead : path.NoLater items := (h.leads n n.self_mem_preorder).2 hk path hp items hi
      have hsorted : ([path] ++ items.preorder).Pairwise NoLater := by
        have hl := ho.lines
        rw [Node.preorder_eq, List.pairwise_cons] at hl
        refine List.pairwise_cons.mpr ⟨fun m hm => ?_, ho.lines⟩
        rw [Node.preorder_eq] at hm
        rcases List.mem_cons.mp hm with rfl | hm
        · exact hlead
        · exact Int.le_trans hlead (hl.1 m hm)
      have hlist := (ascends_useNames items ho).behind (linesAll_declaringGroup path items)
      refine ((ascends_referringFirst (some path)).append hlist hsorted).mono ?_
      intro m hmem
      rcases List.mem_append.mp hmem with hmem | hmem
      · exact List.mem_singleton.mp hmem ▸ Node.mem_preorder_of_child? hp
      · exact Node.mem_preorder_of_child hm hmem

/-- The crate that a use tree begins with is read before the names that the tree brings. -/
theorem ascends_use {n : Node} (h : Orderly n.preorder) :
    Ascends (useRoot n ++ useNames n) n.preorder := by
  have hitself := (ascends_referringFirst (some n)).among n.self_mem_preorder
  unfold useRoot
  split
  · rename_i hk
    refine hitself.ahead ?_
    rw [useNames_eq, hk]
    exact linesAll_declaring _
  · rename_i hk
    refine hitself.ahead ?_
    rw [useNames_eq, hk]
    exact linesAll_declaringLast _
  · rename_i hk
    exact ascends_group h hk
  · rename_i hk
    rw [useNames_eq, hk]
    cases hp : n.child? "path" with
    | none => exact ascends_silent (linesAll_declaring _) _
    | some path =>
      have htwice : Ascends (referringFirst (some path) ++ referring path.lastSegment? path)
          ([path] ++ [path]) :=
        (ascends_referringFirst (some path)).append (ascends_referring _ path)
          (List.pairwise_pair.mpr (Int.le_refl _))
      rw [Option.elim_some, ← List.append_assoc]
      refine (htwice.mono ?_).ahead (linesAll_declaring _)
      intro m hm
      simp only [List.mem_append, or_self, List.mem_singleton] at hm
      exact hm ▸ Node.mem_preorder_of_child? hp
  · rename_i hk
    refine Ascends.ahead ((ascends_referringFirst _).mono fun m hm => ?_) ?_
    · have hn := List.mem_of_head? (Option.mem_toList.mp hm)
      exact Node.mem_preorder_of_child (Node.mem_children_of_namedChildren hn) m.self_mem_preorder
    · rw [useNames_eq, hk]
      rfl
  · exact ascends_useNames n h

end UseTree

end Outline
end CrateUsage
