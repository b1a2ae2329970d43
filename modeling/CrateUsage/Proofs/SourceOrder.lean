import CrateUsage.Proofs.Lines
import CrateUsage.Proofs.Usages

namespace CrateUsage

namespace Outline

open Node (NoLater Orderly isOwned)

/-- What reading a node comes to, wherever it stands: on its own, with the attributes before it, as
a part of a path, and by the attributes it holds. -/
structure ReadInOrder (n : Node) : Prop where
  alone : ∀ (p : Place) (after : List Node), Orderly n.preorder →
    n.ownsAttributes p.above = false → Ascends (ofNode false p after n) n.preorder
  owning : ∀ (p : Place) (after held : List Node), Orderly (held ++ n.preorder) →
    n.ownsAttributes p.above = true → Ascends (attributesSay p) held →
      Ascends (ofNode false p after n) (held ++ n.preorder)
  asPath : ∀ (p : Place) (after : List Node), Orderly (n.hangings.flatMap Node.preorder) →
    (∀ m ∈ n.hangings, m.kind.isItem = false) →
      Ascends (ofNode true p after n) (n.hangings.flatMap Node.preorder)
  held : n.kind = .attributeItem → Orderly n.preorder → ∀ above,
    Ascends ((ofAttributes above n.children).reverse.flatMap (·.2)) n.preorder

theorem ownsAttributes_of_isItem {n : Node} (h : n.kind.isItem = false) (above : List Kind) :
    n.ownsAttributes above = false := by
  unfold Node.ownsAttributes
  cases hk : n.kind <;> simp_all [Kind.isItem]

section RowStep

variable {n : Node} {p : Place} {held ns : List Node}

/-- Nothing is read of a node that parts no attribute from its item. -/
theorem ascends_past_silent (hs : (!n.named || n.kind.isComment) = true)
    (hc : n.kind.isComment = true → n.children = [])
    (hrest : Ascends (ofChildren .every p ns)
      ((if isOwned p.above ns then held else []) ++ ns.flatMap Node.preorder)) :
    Ascends ((if n.named then ofNode false p ns n else []) ++ ofChildren .every (p.behind n) ns)
      ((if isOwned p.above (n :: ns) then held else []) ++
        (n.preorder ++ ns.flatMap Node.preorder)) := by
  have hsaid : (if n.named then ofNode false p ns n else []) = [] := by
    split
    · rename_i hn
      rw [hn] at hs
      exact ofNode_comment hs (hc hs) p ns
    · rfl
  have howned : isOwned p.above (n :: ns) = isOwned p.above ns := by
    have hd : (n.named && !n.isDecoration) = false := by
      cases hn : n.named with
      | false => rfl
      | true =>
        rw [hn] at hs
        simp_all [Node.isDecoration]
    rw [isOwned, Node.decorated?_cons, hd]
    rfl
  rw [hsaid, howned, List.nil_append, Place.behind, if_pos hs]
  refine hrest.mono fun m hm => ?_
  simp only [List.mem_append] at hm ⊢
  exact hm.imp_right .inr

/-- The attributes of an attribute item are read here, or with the item below. -/
theorem ascends_past_attributes (hn : n.named = true) (hk : n.kind = .attributeItem)
    (hr : ReadInOrder n) (ho : Orderly (held ++ (n.preorder ++ ns.flatMap Node.preorder)))
    (ha : Ascends (attributesSay p) held)
    (hrest : ∀ {q : Place}, q.above = p.above → Ascends (attributesSay q) (held ++ n.preorder) →
      Ascends (ofChildren .every q ns)
        ((if isOwned p.above ns then held ++ n.preorder else []) ++ ns.flatMap Node.preorder)) :
    Ascends ((if n.named then ofNode false p ns n else []) ++ ofChildren .every (p.behind n) ns)
      ((if isOwned p.above (n :: ns) then held else []) ++
        (n.preorder ++ ns.flatMap Node.preorder)) := by
  have hself : Orderly n.preorder :=
    ho.sublist ((List.sublist_append_left _ _).trans (List.sublist_append_right _ _))
  have hhere : Orderly (held ++ n.preorder) := by
    refine ho.sublist ((List.Sublist.refl _).append (List.sublist_append_left _ _))
  have howned : isOwned p.above (n :: ns) = isOwned p.above ns := by
    rw [isOwned, Node.decorated?_cons, Node.isDecoration, hk]
    simp [isOwned]
  have hbehind : attributesSay (p.behind n) =
      attributesSay p ++ (ofAttributes p.above n.children).reverse.flatMap (·.2) := by
    simp [Place.behind, hn, hk, Kind.isComment, attributesSay]
  have hq : Ascends (attributesSay (p.behind n)) (held ++ n.preorder) :=
    hbehind ▸ ha.append (hr.held hk hself p.above) hhere.lines
  have hrest := hrest (p.above_behind n) hq
  have hsaid : ofNode false p ns n =
      if isOwned p.above ns then [] else ofChildren .every (p.below n.kind) n.children := by
    rw [ofNode_eq]
    simp only [hk]
    rfl
  rw [if_pos hn, howned]
  cases ht : isOwned p.above ns with
  | true =>
    rw [hsaid, ht, if_pos rfl, List.nil_append]
    simpa [ht] using hrest
  | false =>
    have halone := hr.alone p ns hself (ownsAttributes_of_isItem (by rw [hk]; rfl) _)
    simp only [ht, Bool.false_eq_true, if_false, List.nil_append] at hrest ⊢
    exact halone.append hrest (ho.sublist (List.sublist_append_right _ _)).lines

/-- Any other node reads the attributes before it, if it owns them, and leaves none. -/
theorem ascends_past_node (hs : (!n.named || n.kind.isComment) = false)
    (hk : n.kind ≠ .attributeItem) (hr : ReadInOrder n)
    (ho : Orderly (held ++ (n.preorder ++ ns.flatMap Node.preorder)))
    (ha : Ascends (attributesSay p) held)
    (hrest : Ascends (ofChildren .every { p with attributes := [] } ns)
      (ns.flatMap Node.preorder)) :
    Ascends ((if n.named then ofNode false p ns n else []) ++ ofChildren .every (p.behind n) ns)
      ((if isOwned p.above (n :: ns) then held else []) ++
        (n.preorder ++ ns.flatMap Node.preorder)) := by
  obtain ⟨hn, hc⟩ := Bool.or_eq_false_iff.mp hs
  have hn : n.named = true := by simpa using hn
  have howned : isOwned p.above (n :: ns) = n.ownsAttributes p.above := by
    rw [isOwned, Node.decorated?_cons, Node.isDecoration, hn, hc, decide_eq_false hk]
    rfl
  have hbehind : p.behind n = { p with attributes := [] } := by
    rw [Place.behind, hs, if_neg Bool.false_ne_true, if_neg hk]
  rw [if_pos hn, howned, hbehind]
  cases ht : n.ownsAttributes p.above with
  | true =>
    have hhere : Orderly (held ++ n.preorder) :=
      ho.sublist ((List.Sublist.refl _).append (List.sublist_append_left _ _))
    rw [if_pos rfl, ← List.append_assoc]
    exact (hr.owning p ns held hhere ht ha).append hrest (by rw [List.append_assoc]; exact ho.lines)
  | false =>
    have hself : Orderly n.preorder :=
      ho.sublist ((List.sublist_append_left _ _).trans (List.sublist_append_right _ _))
    rw [if_neg Bool.false_ne_true, List.nil_append]
    exact (hr.alone p ns hself ht).append hrest (ho.sublist (List.sublist_append_right _ _)).lines

end RowStep

section Rows

variable {ns : List Node} (hr : ∀ n ∈ ns, ReadInOrder n)

include hr

/-- By induction on the row. Attributes are read with the item below them, and nothing is read
between them and the item. -/
theorem ascends_every {p : Place} {held : List Node}
    (ho : Orderly (held ++ ns.flatMap Node.preorder)) (ha : Ascends (attributesSay p) held) :
    Ascends (ofChildren .every p ns)
      ((if isOwned p.above ns then held else []) ++ ns.flatMap Node.preorder) := by
  induction ns generalizing p held with
  | nil => exact ascends_silent rfl _
  | cons n ns ih =>
    obtain ⟨hn, hs⟩ := List.forall_mem_cons.mp hr
    rw [List.flatMap_cons] at ho ⊢
    rw [ofChildren_every_cons]
    cases hsilent : !n.named || n.kind.isComment with
    | true =>
      refine ascends_past_silent hsilent (ho.comments n ?_) (ih hs (ho.sublist ?_) ha)
      · exact List.mem_append_right _ (List.mem_append_left _ n.self_mem_preorder)
      · exact (List.Sublist.refl _).append (List.sublist_append_right _ _)
    | false =>
      by_cases hk : n.kind = .attributeItem
      · obtain ⟨hnamed, -⟩ := Bool.or_eq_false_iff.mp hsilent
        refine ascends_past_attributes (by simpa using hnamed) hk hn ho ha fun {q} hq hqa => ?_
        rw [← hq]
        exact ih hs (by rw [List.append_assoc]; exact ho) hqa
      · refine ascends_past_node hsilent hk hn ho ha ?_
        have hafter : Orderly ([] ++ ns.flatMap Node.preorder) :=
          ho.sublist ((List.sublist_append_right _ _).trans (List.sublist_append_right _ _))
        have hnone : Ascends (attributesSay { p with attributes := [] }) [] :=
          ascends_silent rfl []
        simpa using ih hs hafter hnone

/-- The first named child finds no attributes before it. -/
theorem ascends_first {p : Place} (hp : p.attributes = [])
    (ho : Orderly (ns.flatMap Node.preorder)) :
    Ascends (ofChildren .first p ns) (ns.flatMap Node.preorder) := by
  induction ns with
  | nil => exact ascends_silent rfl _
  | cons n ns ih =>
    obtain ⟨hn, hs⟩ := List.forall_mem_cons.mp hr
    rw [List.flatMap_cons] at ho ⊢
    rw [ofChildren_cons (by simp)]
    split
    · refine Ascends.mono ?_ (List.subset_append_left _ _)
      have hself := ho.sublist (List.sublist_append_left _ _)
      cases ht : n.ownsAttributes p.above with
      | false => exact hn.alone p ns hself ht
      | true =>
        have hnone : Ascends (attributesSay p) [] := by
          rw [attributesSay, hp]
          exact ascends_silent rfl _
        exact hn.owning p ns [] hself ht hnone
    · rename_i hnamed
      have hbehind : p.behind n = p := by
        have hf : n.named = false := Bool.eq_false_iff.mpr hnamed
        rw [Place.behind, hf]
        rfl
      rw [hbehind]
      exact (ih hs (ho.sublist (List.sublist_append_right _ _))).mono (List.subset_append_right _ _)

theorem ascends_field {field : String} {p : Place}
    (ho : Orderly (((ns.find? (·.label.field == some field)).toList).flatMap Node.preorder))
    (hi : ∀ m ∈ ns.find? (·.label.field == some field), m.kind.isItem = false) :
    Ascends (ofChildren (.field field) p ns)
      (((ns.find? (·.label.field == some field)).toList).flatMap Node.preorder) := by
  induction ns generalizing p with
  | nil => exact ascends_silent rfl _
  | cons n ns ih =>
    obtain ⟨hn, hs⟩ := List.forall_mem_cons.mp hr
    rw [ofChildren_cons (by simp)]
    by_cases hf : (n.label.field == some field) = true
    · have ht : (Choice.field field).takes n.label = true := hf
      have hfind : (n :: ns).find? (·.label.field == some field) = some n := by
        rw [List.find?_cons, hf]
      rw [hfind] at ho hi ⊢
      rw [if_pos ht]
      simp only [Option.toList_some, List.flatMap_cons, List.flatMap_nil, List.append_nil] at ho ⊢
      exact hn.alone p ns ho (ownsAttributes_of_isItem (hi n rfl) _)
    · have ht : ¬(Choice.field field).takes n.label = true := hf
      have hfind : (n :: ns).find? (·.label.field == some field) =
          ns.find? (·.label.field == some field) := by
        rw [List.find?_cons, Bool.eq_false_iff.mpr hf]
      rw [hfind] at ho hi ⊢
      rw [if_neg ht]
      exact ih hs ho hi

theorem ascends_pathField {field : String} {p : Place}
    (ho : Orderly ((Node.hangingsAt field ns).flatMap Node.preorder))
    (hi : ∀ m ∈ Node.hangingsAt field ns, m.kind.isItem = false) :
    Ascends (ofChildren (.pathField field) p ns)
      ((Node.hangingsAt field ns).flatMap Node.preorder) := by
  induction ns generalizing p with
  | nil => exact ascends_silent rfl _
  | cons n ns ih =>
    obtain ⟨hn, hs⟩ := List.forall_mem_cons.mp hr
    rw [ofChildren_cons (by simp)]
    rw [Node.hangingsAt] at ho hi ⊢
    by_cases hf : (n.label.field == some field) = true
    · have ht : (Choice.pathField field).takes n.label = true := hf
      rw [if_pos hf] at ho hi ⊢
      rw [if_pos ht]
      exact hn.asPath p ns ho hi
    · have ht : ¬(Choice.pathField field).takes n.label = true := hf
      rw [if_neg hf] at ho hi ⊢
      rw [if_neg ht]
      exact ih hs ho hi

end Rows

section OfChildren

variable {n : Node} (hc : ∀ child ∈ n.children, ReadInOrder child)

include hc

theorem ascends_children (p : Place) (h : Orderly n.preorder) :
    Ascends (ofChildren .every (p.below n.kind) n.children) n.preorder := by
  have hnone : Ascends (attributesSay (p.below n.kind)) [] := ascends_silent rfl []
  have hs := ascends_every hc (List.nil_append _ ▸ h.children) hnone
  exact hs.mono fun m hm => n.sublist_preorder_children.subset (by simpa using hm)

/-- An item reads its attributes before what is inside of it. -/
theorem ascends_body (p : Place) {held : List Node} (ho : Orderly (held ++ n.preorder))
    (ha : Ascends (attributesSay p) held) :
    Ascends (attributesSay p ++ ofChildren .every (p.below n.kind) n.children)
      (held ++ n.preorder) :=
  ha.append (ascends_children hc p (ho.sublist (List.sublist_append_right _ _))) ho.lines

theorem ascends_owning (p : Place) (after : List Node) {held : List Node}
    (ho : Orderly (held ++ n.preorder)) (hn : n.ownsAttributes p.above = true)
    (ha : Ascends (attributesSay p) held) :
    Ascends (ofNode false p after n) (held ++ n.preorder) := by
  have hbody := ascends_body hc p ho ha
  rw [ofNode_eq]
  unfold Node.ownsAttributes at hn
  cases hk : n.kind <;>
    simp only [hk, decide_true, decide_false, Bool.true_or, Bool.false_or, Bool.true_and,
      Bool.false_and, reduceCtorEq] at hn
  case modItem =>
    dsimp only
    rw [← hk]
    split
    · exact ascends_silent rfl _
    · exact (hbody.scope _).behind (linesAll_declaring _)
  case functionItem =>
    dsimp only
    rw [if_pos hn, ← hk]
    exact hbody.function _ _

/-- A path says what may be a crate, and then what hangs off it. -/
theorem ascends_path (p : Place) (h : Orderly n.preorder) (hk : n.kind.isScopedPath = true) :
    Ascends (pathHead n.segments ++
      ofChildren (.pathField "path") (p.below n.kind) n.children) n.preorder := by
  obtain ⟨hi, hl⟩ := (h.leads n n.self_mem_preorder).1 hk
  have hs : n.kind.isSegment = false := by
    cases hkind : n.kind <;> simp_all [Kind.isScopedPath, Kind.isSegment]
  have hhang : n.hangings = Node.hangingsAt "path" n.children := by
    rw [Node.hangings_eq, hs, hk]
    rfl
  have hsub : n.lead ++ n.hangings.flatMap Node.preorder ⊆ n.preorder := by
    intro m hm
    rcases List.mem_append.mp hm with hm | hm
    · exact Node.mem_preorder_of_lead hm
    · obtain ⟨k, hk, hm⟩ := List.mem_flatMap.mp hm
      exact Node.mem_preorder_trans n (Node.mem_preorder_of_hangings n hk) hm
  have ho := h.of_subset hsub hl
  rw [hhang] at hi hl hsub ho
  have hafter := ho.sublist (List.sublist_append_right _ _)
  exact ((ascends_pathHead n).append (ascends_pathField hc hafter hi) hl).mono hsub

/-- By cases on the construct: a node that owns no attributes reads its own parts only. -/
theorem ascends_alone (p : Place) (after : List Node) (h : Orderly n.preorder)
    (hn : n.ownsAttributes p.above = false) : Ascends (ofNode false p after n) n.preorder := by
  have hevery := ascends_children hc p h
  rw [ofNode_eq]
  split
  · cases ht : n.child? "argument" with
    | none => exact ascends_silent rfl _
    | some tree =>
      have hm := Node.mem_children_of_child? ht
      exact (ascends_use (h.child hm)).mono fun m hmt => Node.mem_preorder_of_child hm hmt
  · cases hm : n.child? "name" with
    | none => exact ascends_silent rfl _
    | some name => exact (ascends_referring _ name).among (Node.mem_preorder_of_child? hm)
  · rename_i hk
    exact ascends_path hc p h (by rw [hk]; rfl)
  · rename_i hk
    exact ascends_path hc p h (by rw [hk]; rfl)
  · exact (ascends_first hc rfl h.children).mono n.sublist_preorder_children.subset
  · split
    · exact ascends_silent rfl _
    · exact hevery
  · exact hevery.scope false
  · rename_i hk
    simp [Node.ownsAttributes, hk] at hn
  · rename_i hk
    rw [if_neg (by simpa [Node.ownsAttributes, hk] using hn)]
    exact hevery
  · exact hevery

/-- As a part of a path a node says what hangs off it. -/
theorem ascends_asPath (p : Place) (after : List Node)
    (ho : Orderly (n.hangings.flatMap Node.preorder))
    (hi : ∀ m ∈ n.hangings, m.kind.isItem = false) :
    Ascends (ofNode true p after n) (n.hangings.flatMap Node.preorder) := by
  rw [ofNode_asPath]
  have hh := n.hangings_eq
  by_cases hs : n.kind.isSegment = true
  · rw [if_pos hs]
    exact ascends_silent rfl _
  by_cases hk : n.kind.isScopedPath = true
  · rw [if_neg hs, if_pos hk] at hh ⊢
    rw [hh] at ho hi ⊢
    exact ascends_pathField hc ho hi
  by_cases hg : n.kind = .genericType
  · rw [if_neg hs, if_neg hk, if_pos hg] at hh ⊢
    rw [hh] at ho hi ⊢
    rw [List.flatMap_append] at ho ⊢
    refine Ascends.append ?_ ?_ ho.lines
    · exact ascends_pathField hc (ho.sublist (List.sublist_append_left _ _))
        fun m hm => hi m (List.mem_append_left _ hm)
    · exact ascends_field hc (ho.sublist (List.sublist_append_right _ _))
        fun m hm => hi m (List.mem_append_right _ (Option.mem_toList.mpr hm))
  · rw [if_neg hs, if_neg hk, if_neg hg] at hh ⊢
    rw [hh] at ho hi ⊢
    rw [List.flatMap_singleton] at ho ⊢
    exact ascends_alone hc p after ho
      (ownsAttributes_of_isItem (hi n (List.mem_singleton.mpr rfl)) _)

end OfChildren

/-- An attribute says, as a part of its attribute item, what it says as a node. -/
theorem said_of_mem_ofAttributes {above : List Kind} {ns : List Node} {a : Node × Outline}
    (h : a ∈ ofAttributes above ns) :
    a.1 ∈ ns ∧ a.1.kind = .attributeBody ∧
      a.2 = ofNode false { above := .attributeItem :: above } [] a.1 := by
  induction ns with
  | nil => cases h
  | cons n ns ih =>
    rw [ofAttributes_cons] at h
    rcases List.mem_append.mp h with h | h
    · split at h
      · rename_i hk
        obtain ⟨-, hk⟩ := Bool.and_eq_true_iff.mp hk
        have hk := of_decide_eq_true hk
        rw [List.mem_singleton.mp h]
        refine ⟨List.mem_cons_self, hk, ?_⟩
        rw [ofNode_eq]
        simp only [hk]
        rfl
      · cases h
    · obtain ⟨hm, hs⟩ := ih h
      exact ⟨List.mem_cons_of_mem _ hm, hs⟩

/-- Of one attribute, or of none, the order does not matter. -/
theorem ascends_held {n : Node} (hc : ∀ child ∈ n.children, ReadInOrder child)
    (hk : n.kind = .attributeItem) (h : Orderly n.preorder) (above : List Kind) :
    Ascends ((ofAttributes above n.children).reverse.flatMap (·.2)) n.preorder := by
  have hlength : (ofAttributes above n.children).length ≤ 1 := by
    have ha := h.attributes n n.self_mem_preorder hk
    rw [Node.attributesHeld, if_pos hk, List.length_reverse, Node.namedChildren,
      ← nodes_ofAttributes above, List.length_map] at ha
    exact ha
  rcases hs : ofAttributes above n.children with _ | ⟨a, _ | ⟨b, as⟩⟩
  · exact ascends_silent rfl _
  · obtain ⟨hm, hbody, hsaid⟩ := said_of_mem_ofAttributes (hs ▸ List.mem_singleton.mpr rfl :
      a ∈ ofAttributes above n.children)
    have hself := h.child hm
    have halone := (hc a.1 hm).alone { above := .attributeItem :: above } [] hself
      (ownsAttributes_of_isItem (by rw [hbody]; rfl) _)
    rw [← hsaid] at halone
    simp only [List.reverse_singleton, List.flatMap_singleton]
    exact halone.mono fun m hmem => Node.mem_preorder_of_child hm hmem
  · rw [hs] at hlength
    simp at hlength

mutual
/-- By induction on the tree: every node is read in the order of the file. -/
theorem readInOrder : ∀ n : Node, ReadInOrder n
  | .mk l cs =>
    have hc : ∀ child ∈ (Node.mk l cs).children, ReadInOrder child := readInOrderAll cs
    { alone := fun p after => ascends_alone hc p after
      owning := fun p after _ => ascends_owning hc p after
      asPath := fun p after => ascends_asPath hc p after
      held := ascends_held hc }

theorem readInOrderAll : ∀ ns : List Node, ∀ n ∈ ns, ReadInOrder n
  | [] => List.forall_mem_nil _
  | n :: ns => List.forall_mem_cons.mpr ⟨readInOrder n, readInOrderAll ns⟩
end

end Outline

section FirstSightings

variable {R : Record → Record → Prop} {rs : List Record}

theorem firstSightings_sublist (rs : List Record) : (firstSightings rs).Sublist rs := by
  induction rs with
  | nil => exact .refl _
  | cons r rs ih => exact (List.filter_sublist.trans ih).cons_cons r

/-- The first of several sightings is before the others. -/
theorem related_of_firstSightings (h : rs.Pairwise R) {r q : Record} (hr : r ∈ firstSightings rs)
    (hq : q ∈ rs) (he : r.repeats q = true) : r = q ∨ R r q := by
  induction rs with
  | nil => cases hr
  | cons p rs ih =>
    obtain ⟨hp, hs⟩ := List.pairwise_cons.mp h
    rcases List.mem_cons.mp hr with rfl | hr
    · exact (List.mem_cons.mp hq).imp Eq.symm (hp q)
    · obtain ⟨hr, hne⟩ := List.mem_filter.mp hr
      rcases List.mem_cons.mp hq with rfl | hq
      · obtain ⟨hn, hb⟩ := Record.repeats_iff.mp he
        simp [Record.repeats, hn, hb] at hne
      · exact ih hs hr hq

end FirstSightings

namespace Node

theorem ascends_outline {root : Node} (h : Orderly root.preorder) :
    Outline.Ascends root.outline root.preorder := by
  have hr := Outline.readInOrder root
  cases ho : root.ownsAttributes [] with
  | false => exact hr.alone {} [] h ho
  | true => exact hr.owning {} [] [] h ho (Outline.ascends_silent rfl [])

def LineUpTo (r q : Record) : Prop := ∃ i j, r.line = some i ∧ q.line = some j ∧ i ≤ j

theorem sightings_ascend {root : Node} (h : Orderly root.preorder) :
    root.sightings.Pairwise LineUpTo := by
  obtain ⟨lines, hs, he⟩ :=
    List.sublist_map_iff.mp (Step.sublist_sightingsAll root.outline {})
  have hlines : (lines.map some).Pairwise fun a b : Option Int =>
      ∃ i j, a = some i ∧ b = some j ∧ i ≤ j := by
    rw [List.pairwise_map]
    exact ((ascends_outline h).sorted.sublist hs).imp fun hij => ⟨_, _, rfl, rfl, hij⟩
  rw [← he, List.pairwise_map] at hlines
  exact hlines

/-- First sightings are reported in the order of the file: where rows do not go down along the
tree, comments are leaves, each attribute item holds one attribute at most, and no path begins
below what hangs off it, the lines of the records go up only, and the line of a record is the
smallest of all references to its name for its kind of build that count. -/
theorem records_ascend {root : Node} (ht : ∀ m ∈ root.preorder, m.text.isSome = true)
    (hl : root.preorder.Pairwise NoLater)
    (hc : ∀ m ∈ root.preorder, m.kind.isComment = true → m.children = [])
    (ha : ∀ m ∈ root.preorder, m.kind = .attributeItem → m.attributesHeld.length ≤ 1)
    (hp : ∀ m ∈ root.preorder, m.LeadsInOrder) :
    ∃ d, root.discover = .ok d ∧ d.records.Pairwise LineUpTo ∧
      ∀ r ∈ d.records, r ∈ root.sightings ∧
        ∀ q ∈ root.sightings, r.repeats q = true → LineUpTo r q := by
  obtain ⟨d, hd⟩ := discover_isOk ht
  have hs : root.sightings.Pairwise LineUpTo := sightings_ascend ⟨hl, hc, ha, hp⟩
  have hrecords := records_of_discover hd
  refine ⟨d, hd, ?_, fun r hr => ?_⟩
  · rw [hrecords]
    exact hs.sublist (firstSightings_sublist _)
  · rw [hrecords] at hr
    have hm := mem_of_firstSightings hr
    refine ⟨hm, fun q hq he => ?_⟩
    rcases related_of_firstSightings hs hr hq he with rfl | hrq
    · obtain ⟨line, hline⟩ := Step.line_of_sightingAll root.outline hm
      exact ⟨line, line, hline, hline, Int.le_refl _⟩
    · exact hrq

/-- An attribute, the module below it, and a path with generic arguments, each on its own line. -/
theorem records_ascend_lines :
    let at_ := fun (row : Nat) (kind : Kind) (field : Option String) (text : String)
      (children : List Node) => mk { kind, field, row, text := some text } children
    let path := fun (row : Nat) (field : Option String) (first second : String) =>
      at_ row .scopedTypeIdentifier field "" [
        at_ row .identifier (some "path") first [],
        at_ row .typeIdentifier (some "name") second []]
    let root := at_ 0 .sourceFile none "" [
      at_ 0 .attributeItem none "" [
        at_ 0 .attributeBody none "" [path 0 none "tokio" "test"]],
      at_ 1 .functionItem none "" [
        at_ 1 .identifier (some "name") "f" [],
        at_ 2 .block (some "body") "" [
          at_ 2 .scopedIdentifier none "" [
            at_ 2 .genericType (some "path") "" [
              path 2 (some "type") "regex" "Set",
              at_ 3 .typeArguments (some "type_arguments") "" [path 3 none "rand" "Rng"]],
            at_ 4 .identifier (some "name") "new" []]]]]
    (∀ m ∈ root.preorder, m.text.isSome = true) ∧ root.preorder.Pairwise NoLater ∧
      (∀ m ∈ root.preorder, m.kind.isComment = true → m.children = []) ∧
      (∀ m ∈ root.preorder, m.kind = .attributeItem → m.attributesHeld.length ≤ 1) ∧
      (∀ m ∈ root.preorder, m.LeadsInOrder) ∧
      ∃ d, root.discover = .ok d ∧ d.records.Pairwise LineUpTo ∧
        d.records = [⟨"tokio", .normal, some 1⟩, ⟨"regex", .normal, some 3⟩,
          ⟨"rand", .normal, some 4⟩] := by
  intro at_ path root
  have ht : ∀ m ∈ root.preorder, m.text.isSome = true := by decide
  have hl : root.preorder.Pairwise NoLater := by decide
  have hc : ∀ m ∈ root.preorder, m.kind.isComment = true → m.children = [] := by decide
  have ha : ∀ m ∈ root.preorder, m.kind = .attributeItem → m.attributesHeld.length ≤ 1 := by
    decide
  have hp : ∀ m ∈ root.preorder, m.LeadsInOrder := by decide
  obtain ⟨d, hd, hs, -⟩ := records_ascend ht hl hc ha hp
  exact ⟨ht, hl, hc, ha, hp, d, hd, hs, (records_of_discover hd).trans (by decide)⟩

/-- Without the condition on paths the lines may go down: in `<T as regex::B>` with `::Output::d` on
the next line, `Output` is noted before the prefix is read. -/
theorem records_descend :
    let at_ := fun (row : Nat) (kind : Kind) (field : Option String) (text : String)
      (children : List Node) => mk { kind, field, row, text := some text } children
    let root := at_ 0 .sourceFile none "" [
      at_ 0 .functionItem none "" [
        at_ 0 .identifier (some "name") "f" [],
        at_ 0 .block (some "body") "" [
          at_ 1 .scopedIdentifier none "" [
            at_ 1 .scopedIdentifier (some "path") "" [
              at_ 1 (.other "bracketed_type") (some "path") "" [
                at_ 1 (.other "qualified_type") none "" [
                  at_ 1 .typeIdentifier (some "type") "T" [],
                  at_ 1 .scopedTypeIdentifier (some "alias") "" [
                    at_ 1 .identifier (some "path") "regex" [],
                    at_ 1 .typeIdentifier (some "name") "B" []]]],
              at_ 2 .identifier (some "name") "Output" []],
            at_ 2 .identifier (some "name") "d" []]]]]
    ¬((∀ m ∈ root.preorder, m.text.isSome = true) → root.preorder.Pairwise NoLater →
      (∀ m ∈ root.preorder, m.kind.isComment = true → m.children = []) →
      (∀ m ∈ root.preorder, m.kind = .attributeItem → m.attributesHeld.length ≤ 1) →
      ∃ d, root.discover = .ok d ∧ d.records.Pairwise LineUpTo) := by
  intro at_ root h
  obtain ⟨d, hd, hs⟩ := h (by decide) (by decide) (by decide) (by decide)
  have hfound : root.discover = .ok
      { normal := ["Output", "regex"], testOnly := [],
        records := [⟨"Output", .normal, some 3⟩, ⟨"regex", .normal, some 2⟩], hints := {} } := by
    rfl
  rw [hfound] at hd
  cases hd
  obtain ⟨i, j, hi, hj, hij⟩ := (List.pairwise_cons.mp hs).1 _ List.mem_cons_self
  cases hi
  cases hj
  exact absurd hij (by decide)

end Node
end CrateUsage
