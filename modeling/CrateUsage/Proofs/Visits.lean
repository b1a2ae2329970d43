import Mathlib.Data.List.Flatten
import Mathlib.Data.List.Perm.Subperm
import CrateUsage.Proofs.Hangings
import CrateUsage.Tree.Site

namespace CrateUsage

theorem Kind.isScopedPath_iff {kind : Kind} :
    kind.isScopedPath = true ↔ kind = .scopedIdentifier ∨ kind = .scopedTypeIdentifier := by
  cases kind <;> simp [isScopedPath]

theorem Kind.isSegment_of_isScopedPath {kind : Kind} (h : kind.isScopedPath = true) :
    kind.isSegment = false := by
  cases kind <;> first | rfl | cases h

namespace Site

def row (before : List Node) (above : List Kind) : List Node → List Site
  | [] => []
  | n :: after => ⟨n, before, after, above⟩ :: row (n :: before) above after

def children (s : Site) : List Site := row [] (s.node.kind :: s.above) s.node.children

def namedChildren (s : Site) : List Site := s.children.filter (·.node.named)

def child? (s : Site) (field : String) : Option Site :=
  s.children.find? (·.node.label.field == some field)

def below (s : Site) : List Site := under s.before s.after s.above s.node

/-- The nodes that a visit can come to: those below the node, and those before it, which may hold
its attributes. -/
def material (s : Site) : List Node := s.node.preorder ++ s.before.flatMap Node.preorder

def weight (s : Site) : Nat := s.material.length

def Within (t s : Site) : Prop := t.material.Subperm (s.node.children.flatMap Node.preorder)

section Rows

variable {s t u : Site} {before ns : List Node} {above : List Kind}

theorem map_node_row (before : List Node) (above : List Kind) (ns : List Node) :
    (row before above ns).map node = ns := by
  induction ns generalizing before with
  | nil => rfl
  | cons n ns ih => rw [row, List.map_cons, ih]

theorem above_of_mem_row (h : t ∈ row before above ns) : t.above = above := by
  induction ns generalizing before with
  | nil => cases h
  | cons n ns ih =>
    rcases List.mem_cons.mp h with rfl | h
    · rfl
    · exact ih h

theorem above_of_child (h : t ∈ s.children) : t.above = s.node.kind :: s.above :=
  above_of_mem_row h

theorem mem_children_of_named (h : t ∈ s.namedChildren) : t ∈ s.children :=
  (List.mem_filter.mp h).1

theorem mem_children_of_child? {field : String} (h : s.child? field = some t) : t ∈ s.children :=
  List.mem_of_find?_eq_some h

theorem subperm_material_of_mem_row (h : t ∈ row before above ns) :
    t.material.Subperm (before.flatMap Node.preorder ++ ns.flatMap Node.preorder) := by
  induction ns generalizing before with
  | nil => cases h
  | cons n ns ih =>
    rw [List.flatMap_cons]
    rcases List.mem_cons.mp h with rfl | h
    · have hsub : (n.preorder ++ before.flatMap Node.preorder).Subperm
          (n.preorder ++ before.flatMap Node.preorder ++ ns.flatMap Node.preorder) :=
        (List.sublist_append_left _ _).subperm
      refine hsub.trans (List.Perm.subperm ?_)
      rw [← List.append_assoc]
      exact List.perm_append_comm.append_right _
    · refine (ih h).trans (List.Perm.subperm ?_)
      rw [List.flatMap_cons, ← List.append_assoc]
      exact List.perm_append_comm.append_right _

theorem before_subset_of_mem_row (h : t ∈ row before above ns) {n : Node} (hn : n ∈ t.before) :
    n ∈ before ∨ n ∈ ns := by
  induction ns generalizing before with
  | nil => cases h
  | cons m ns ih =>
    rcases List.mem_cons.mp h with rfl | h
    · exact .inl hn
    · rcases ih h with hb | hb
      · rcases List.mem_cons.mp hb with rfl | hb
        · exact .inr List.mem_cons_self
        · exact .inl hb
      · exact .inr (List.mem_cons_of_mem _ hb)

theorem exists_child_of_mem {n : Node} (h : n ∈ s.node.children) :
    ∃ c ∈ s.children, c.node = n := by
  rw [← map_node_row [] (s.node.kind :: s.above) s.node.children] at h
  exact List.mem_map.mp h

theorem within_of_child (h : t ∈ s.children) : t.Within s := by
  have hsub := subperm_material_of_mem_row h
  rwa [List.flatMap_nil, List.nil_append] at hsub

theorem Within.subperm (h : t.Within s) : t.material.Subperm s.material := by
  refine h.trans (List.Sublist.subperm ?_)
  rw [material, Node.preorder_eq]
  exact (List.sublist_cons_self _ _).trans (List.sublist_append_left _ _)

theorem Within.trans (h : t.Within u) (g : u.Within s) : t.Within s := h.subperm.trans g

theorem Within.weight_lt (h : t.Within s) : t.weight < s.weight := by
  have hl : t.material.length ≤ (s.node.children.flatMap Node.preorder).length := h.length_le
  have hs : s.material.length = _ := congrArg List.length (congrArg (· ++ _) s.node.preorder_eq)
  rw [List.length_append, List.length_cons] at hs
  rw [weight, weight]
  omega

theorem below_eq (s : Site) : s.below = s :: s.children.flatMap below := by
  have hamong : ∀ (before : List Node) (above : List Kind) (ns : List Node),
      among before above ns = (row before above ns).flatMap below := by
    intro before above ns
    induction ns generalizing before with
    | nil => rfl
    | cons n ns ih =>
      rw [among, ih, row, List.flatMap_cons]
      rfl
  obtain ⟨⟨l, cs⟩, before, after, above⟩ := s
  rw [below, under, hamong]
  rfl

theorem below_subset_of_child (h : t ∈ s.children) : t.below ⊆ s.below := by
  intro q hq
  rw [below_eq s]
  exact List.mem_cons_of_mem _ (List.mem_flatMap.mpr ⟨t, h, hq⟩)

theorem self_mem_below (s : Site) : s ∈ s.below := by
  rw [below_eq]
  exact List.mem_cons_self

/-- Sites from the lightest to the heaviest: what holds of a site if it holds of those that a visit
comes to from there holds of every site. -/
@[elab_as_elim]
theorem weight_induction {P : Site → Prop} (s : Site)
    (h : ∀ s, (∀ t, t.weight < s.weight → P t) → P s) : P s :=
  (measure weight).wf.induction s h

end Rows

def base? (s : Site) : Option Site :=
  if s.node.kind.isScopedPath then s.child? "path"
  else if s.node.kind = .genericType then s.child? "type"
  else none

theorem mem_children_of_base? {s t : Site} (h : s.base? = some t) : t ∈ s.children := by
  unfold base? at h
  split at h
  · exact mem_children_of_child? h
  · split at h
    · exact mem_children_of_child? h
    · cases h

/-- The parts of a path, the whole path first. -/
def chain (s : Site) : List Site :=
  s :: match _h : s.base? with
    | some t => t.chain
    | none => []
termination_by s.weight
decreasing_by exact (within_of_child (mem_children_of_base? ‹_›)).weight_lt

def hangsOff (s : Site) : List Site :=
  if s.node.kind = .genericType then (s.child? "type_arguments").toList
  else if s.node.kind.isScopedPath || s.node.kind.isSegment then []
  else [s]

def hangings (s : Site) : List Site := s.chain.reverse.flatMap hangsOff

section Paths

variable {s t u : Site}

theorem chain_eq (s : Site) : s.chain = s :: s.base?.elim [] chain := by
  rw [chain]
  split <;> rename_i h <;> rw [h] <;> rfl

theorem hangings_eq (s : Site) : s.hangings = s.base?.elim [] hangings ++ s.hangsOff := by
  rw [hangings, chain_eq, List.reverse_cons, List.flatMap_append, List.flatMap_singleton]
  cases s.base? <;> rfl

theorem mem_hangsOff (h : t ∈ s.hangsOff) :
    s.node.kind = .genericType ∧ t ∈ s.children ∨ t = s ∧ s.node.kind.isScopedPath = false := by
  unfold hangsOff at h
  split at h
  · rename_i hg
    exact .inl ⟨hg, mem_children_of_child? (Option.mem_toList.mp h)⟩
  · split at h
    · cases h
    · rename_i hp
      have hp := (Bool.or_eq_false_iff.mp (Bool.eq_false_iff.mpr hp)).1
      exact .inr ⟨List.mem_singleton.mp h, hp⟩

theorem mem_hangings : t ∈ s.hangings ↔ ∃ c ∈ s.chain, t ∈ c.hangsOff := by
  simp only [hangings, List.mem_flatMap, List.mem_reverse]

theorem self_mem_chain (s : Site) : s ∈ s.chain := by
  rw [chain_eq]
  exact List.mem_cons_self

theorem mem_chain_of_base {b : Site} (hb : s.base? = some b) (h : t ∈ b.chain) : t ∈ s.chain := by
  rw [chain_eq, hb]
  exact List.mem_cons_of_mem _ h

/-- By induction on the path, from each part to the part before it. -/
theorem chain_induction {P : Site → Site → Prop} (hself : ∀ s, P s s)
    (hbase : ∀ {s b t : Site}, s.base? = some b → P t b → P t s) (h : t ∈ s.chain) : P t s := by
  induction s using weight_induction with
  | h s ih =>
    rw [chain_eq] at h
    rcases List.mem_cons.mp h with rfl | h
    · exact hself t
    · cases hb : s.base? with
      | none =>
        rw [hb] at h
        cases h
      | some b =>
        rw [hb] at h
        exact hbase hb (ih b (within_of_child (mem_children_of_base? hb)).weight_lt h)

theorem eq_or_within_of_chain (h : t ∈ s.chain) : t = s ∨ t.Within s := by
  refine chain_induction (P := fun t s => t = s ∨ t.Within s) (fun _ => .inl rfl) ?_ h
  intro s b t hb ht
  have hc := within_of_child (mem_children_of_base? hb)
  rcases ht with rfl | ht
  · exact .inr hc
  · exact .inr (ht.trans hc)

theorem below_subset_of_chain (h : t ∈ s.chain) : t.below ⊆ s.below :=
  chain_induction (P := fun t s => t.below ⊆ s.below) (fun _ => List.Subset.refl _)
    (fun hb ht => List.Subset.trans ht (below_subset_of_child (mem_children_of_base? hb))) h

theorem eq_or_base_of_chain (h : t ∈ s.chain) : t = s ∨ ∃ c ∈ s.chain, c.base? = some t := by
  refine chain_induction (P := fun t s => t = s ∨ ∃ c ∈ s.chain, c.base? = some t)
    (fun _ => .inl rfl) ?_ h
  intro s b t hb ht
  rcases ht with rfl | ⟨c, hc, ht⟩
  · exact .inr ⟨s, s.self_mem_chain, hb⟩
  · exact .inr ⟨c, mem_chain_of_base hb hc, ht⟩

/-- A path of several segments does not hang off itself. -/
theorem exists_part_of_hanging (hp : s.node.kind.isScopedPath = true) (h : t ∈ s.hangings) :
    ∃ c ∈ s.chain, t ∈ c.children := by
  obtain ⟨c, hc, ht⟩ := mem_hangings.mp h
  rcases mem_hangsOff ht with ⟨-, ht⟩ | ⟨rfl, hn⟩
  · exact ⟨c, hc, ht⟩
  · rcases eq_or_base_of_chain hc with rfl | ⟨d, hd, hb⟩
    · rw [hp] at hn
      cases hn
    · exact ⟨d, hd, mem_children_of_base? hb⟩

theorem within_of_part (hc : s ∈ u.chain) (h : t ∈ s.children) : t.Within u := by
  rcases eq_or_within_of_chain hc with rfl | hs
  · exact within_of_child h
  · exact (within_of_child h).trans hs

theorem below_subset_of_part (hc : s ∈ u.chain) (h : t ∈ s.children) : t.below ⊆ u.below :=
  List.Subset.trans (below_subset_of_child h) (below_subset_of_chain hc)

theorem within_of_hanging (hp : s.node.kind.isScopedPath = true) (h : t ∈ s.hangings) :
    t.Within s := by
  obtain ⟨c, hc, ht⟩ := exists_part_of_hanging hp h
  exact within_of_part hc ht

theorem below_subset_of_hanging (hp : s.node.kind.isScopedPath = true) (h : t ∈ s.hangings) :
    t.below ⊆ s.below := by
  obtain ⟨c, hc, ht⟩ := exists_part_of_hanging hp h
  exact below_subset_of_part hc ht

end Paths

/-- The attributes that a node of a row holds, nearest to the next item first. -/
def held (above : List Kind) (n : Node) : List Site :=
  if n.kind = .attributeItem then
    ((row [] (n.kind :: above) n.children).filter
      fun a => a.node.named && a.node.kind = .attributeBody).reverse
  else []

def pending (above : List Kind) : List Node → List Site
  | [] => []
  | n :: before =>
    if !n.named || n.kind.isComment then pending above before
    else if n.kind = .attributeItem then pending above before ++ held above n
    else []

def attributes (s : Site) : List Site := pending s.above s.before

def isOwned (s : Site) : Bool :=
  s.node.kind = .attributeItem && Node.isOwned s.above s.after

/-- The visits that are made directly from the visit of a node, in their order. -/
def calls (s : Site) : List Site :=
  match s.node.kind with
  | .useDeclaration | .externCrateDeclaration => []
  | .scopedIdentifier | .scopedTypeIdentifier => s.hangings
  | .attributeBody => (s.children.find? (·.node.named)).toList
  | _ =>
    if s.isOwned then []
    else if s.ownsAttributes then s.attributes ++ s.namedChildren
    else s.namedChildren

def placeBehind (above : List Kind) (before : List Node) : Outline.Place :=
  before.foldr (fun n p => p.behind n) { above }

def place (s : Site) : Outline.Place := placeBehind s.above s.before

def outline (s : Site) : Outline := Outline.ofNode false s.place s.after s.node

/-- What the visit of a node says around that which the visits say that are made from it. -/
def around (s : Site) (inside : Outline) : Outline :=
  match s.node.kind with
  | .useDeclaration =>
    (s.node.child? "argument").elim [] fun tree => Outline.useRoot tree ++ Outline.useNames tree
  | .externCrateDeclaration =>
    (s.node.child? "name").elim [] fun name => Outline.referring (some name) name
  | .scopedIdentifier | .scopedTypeIdentifier => Outline.pathHead s.node.segments ++ inside
  | .block => [.scope false inside]
  | .modItem =>
    match Markers.ofAttributes s.outerAttributes with
    | .error kind => [.unreadable kind]
    | .ok m => Outline.declaring (s.node.child? "name") ++ [.scope m.isCfgTest inside]
  | .functionItem =>
    if s.isFree then
      [.function ((s.node.child? "name").map Node.read) (Markers.ofAttributes s.outerAttributes)
        inside]
    else inside
  | _ => inside

section Attributes

variable {s t a : Site} {above : List Kind} {before : List Node} {n : Node}

theorem mem_held (h : a ∈ held above n) :
    n.kind = .attributeItem ∧ a.node.kind = .attributeBody ∧
      a.material.Subperm (n.children.flatMap Node.preorder) := by
  unfold held at h
  split at h
  · rename_i hk
    obtain ⟨hm, ha⟩ := List.mem_filter.mp (List.mem_reverse.mp h)
    refine ⟨hk, by simpa using (Bool.and_eq_true_iff.mp ha).2, ?_⟩
    have hsub := subperm_material_of_mem_row hm
    rwa [List.flatMap_nil, List.nil_append] at hsub
  · cases h

theorem mem_pending (h : a ∈ pending above before) :
    ∃ n ∈ before, n.named = true ∧ a ∈ held above n := by
  induction before with
  | nil => cases h
  | cons n before ih =>
    have hlater : a ∈ pending above before →
        ∃ m ∈ n :: before, m.named = true ∧ a ∈ held above m := by
      intro h
      obtain ⟨m, hm, hh⟩ := ih h
      exact ⟨m, List.mem_cons_of_mem _ hm, hh⟩
    rw [pending] at h
    split at h
    · exact hlater h
    · rename_i hs
      split at h
      · rcases List.mem_append.mp h with h | h
        · exact hlater h
        · exact ⟨n, List.mem_cons_self, by simp_all, h⟩
      · cases h

/-- What an attribute holds stands in an attribute item before its item. -/
theorem exists_item_of_attribute (h : a ∈ s.attributes) :
    ∃ n ∈ s.before, n.kind = .attributeItem ∧
      a.material.Subperm (n.children.flatMap Node.preorder) := by
  obtain ⟨n, hn, -, hh⟩ := mem_pending h
  obtain ⟨hk, -, hm⟩ := mem_held hh
  exact ⟨n, hn, hk, hm⟩

theorem preorder_sublist_of_before (h : n ∈ s.before) :
    n.preorder.Sublist (s.before.flatMap Node.preorder) := by
  have hsub := (List.singleton_sublist.mpr h).flatMap Node.preorder
  rwa [List.flatMap_singleton] at hsub

theorem weight_lt_of_attribute (h : a ∈ s.attributes) : a.weight < s.weight := by
  obtain ⟨n, hn, -, hm⟩ := exists_item_of_attribute h
  calc a.weight
    _ ≤ (n.children.flatMap Node.preorder).length := hm.length_le
    _ < n.preorder.length := by
      rw [n.preorder_eq]
      exact Nat.lt_succ_self _
    _ ≤ (s.before.flatMap Node.preorder).length := (preorder_sublist_of_before hn).length_le
    _ ≤ s.weight := (List.sublist_append_right _ _).length_le

theorem material_subset_of_attribute (h : a ∈ s.attributes) : a.material ⊆ s.material := by
  obtain ⟨n, hn, -, hm⟩ := exists_item_of_attribute h
  intro m hmem
  refine List.mem_append_right _ ((preorder_sublist_of_before hn).subset ?_)
  rw [n.preorder_eq]
  exact List.mem_cons_of_mem _ (hm.subset hmem)

end Attributes

section Outlines

open Outline

variable {s t : Site} {above : List Kind} {before ns : List Node}

theorem above_placeBehind (above : List Kind) (before : List Node) :
    (placeBehind above before).above = above := by
  induction before with
  | nil => rfl
  | cons n before ih => rw [placeBehind, List.foldr_cons, Place.above_behind, ← placeBehind, ih]

theorem below_place (s : Site) (kind : Kind) :
    s.place.below kind = placeBehind (kind :: s.above) [] := by
  rw [Place.below, place, above_placeBehind]
  rfl

theorem ofChildren_row (above : List Kind) (before ns : List Node) :
    ofChildren .every (placeBehind above before) ns =
      ((row before above ns).filter (·.node.named)).flatMap outline := by
  induction ns generalizing before with
  | nil => rfl
  | cons n ns ih =>
    rw [ofChildren_every_cons, row, List.filter_cons]
    have hrest := ih (n :: before)
    rw [placeBehind, List.foldr_cons, ← placeBehind] at hrest
    rw [hrest]
    cases n.named <;> rfl

theorem ofChildren_choice {choice : Choice} (h : choice ≠ .every) (above : List Kind)
    (before ns : List Node) :
    ofChildren choice (placeBehind above before) ns =
      ((row before above ns).find? (choice.takes ·.node.label)).elim [] fun t =>
        ofNode choice.asPath t.place t.after t.node := by
  induction ns generalizing before with
  | nil => cases choice <;> rfl
  | cons n ns ih =>
    have hrest := ih (n :: before)
    rw [placeBehind, List.foldr_cons, ← placeBehind] at hrest
    rw [ofChildren_cons h, hrest, row, List.find?_cons]
    cases choice.takes n.label <;> rfl

theorem ofChildren_children {choice : Choice} (h : choice ≠ .every) (s : Site) :
    ofChildren choice (s.place.below s.node.kind) s.node.children =
      (s.children.find? (choice.takes ·.node.label)).elim [] fun t =>
        ofNode choice.asPath t.place t.after t.node := by
  rw [below_place, ofChildren_choice h]
  rfl

theorem ofChildren_base (s : Site) (name : String) :
    ofChildren (.pathField name) (s.place.below s.node.kind) s.node.children =
      (s.child? name).elim [] fun t => ofNode true t.place t.after t.node :=
  ofChildren_children (by simp) s

theorem ofChildren_field (s : Site) (name : String) :
    ofChildren (.field name) (s.place.below s.node.kind) s.node.children =
      (s.child? name).toList.flatMap outline := by
  rw [ofChildren_children (by simp)]
  change (s.child? name).elim [] _ = _
  cases s.child? name with
  | none => rfl
  | some t => exact (List.flatMap_singleton outline t).symm

theorem ofChildren_first (s : Site) :
    ofChildren .first (s.place.below s.node.kind) s.node.children =
      (s.children.find? (·.node.named)).toList.flatMap outline := by
  rw [ofChildren_children (by simp)]
  change (s.children.find? (·.node.named)).elim [] _ = _
  cases s.children.find? (·.node.named) with
  | none => rfl
  | some t => exact (List.flatMap_singleton outline t).symm

/-- One part of a path says what the part before it says, and then what hangs off it. -/
theorem ofNode_asPath_step (s : Site) :
    ofNode true s.place s.after s.node =
      (s.base?.elim [] fun t => ofNode true t.place t.after t.node) ++
        s.hangsOff.flatMap outline := by
  rw [ofNode_asPath, ofChildren_base, ofChildren_base, ofChildren_field, base?, hangsOff]
  by_cases hp : s.node.kind.isScopedPath = true
  · have hs := Kind.isSegment_of_isScopedPath hp
    have hg : s.node.kind ≠ .genericType := fun hg => by simp [hg, Kind.isScopedPath] at hp
    simp [hp, hs, hg]
  · by_cases hg : s.node.kind = .genericType
    · simp [hg, Kind.isSegment, Kind.isScopedPath]
    · cases hs : s.node.kind.isSegment with
      | true => simp [hp, hg]
      | false => simp [hp, hg, outline]

/-- By induction on the path: as a part of a path a node says what hangs off it. -/
theorem ofNode_asPath_eq (s : Site) :
    ofNode true s.place s.after s.node = s.hangings.flatMap outline := by
  induction s using weight_induction with
  | h s ih =>
    rw [ofNode_asPath_step, hangings_eq, List.flatMap_append]
    congr 1
    cases hb : s.base? with
    | none => rfl
    | some t => exact ih t (within_of_child (mem_children_of_base? hb)).weight_lt

theorem outline_attribute {a : Site} (hk : a.node.kind = .attributeBody) :
    a.outline =
      ofChildren .first ⟨.attributeBody :: a.above, []⟩ a.node.children := by
  rw [outline, ofNode_eq, hk]
  dsimp only
  rw [below_place]
  rfl

theorem ofAttributes_row (above : List Kind) (before ns : List Node) :
    ofAttributes above ns =
      ((row before (.attributeItem :: above) ns).filter
        fun a => a.node.named && a.node.kind = .attributeBody).map
          fun a => (a.node, a.outline) := by
  induction ns generalizing before with
  | nil => rfl
  | cons n ns ih =>
    rw [ofAttributes_cons, ih (n :: before), row, List.filter_cons]
    cases ha : n.named && decide (n.kind = .attributeBody) with
    | false => rfl
    | true =>
      have hk : n.kind = .attributeBody := by simpa using (Bool.and_eq_true_iff.mp ha).2
      rw [if_pos rfl, if_pos rfl, List.map_cons, outline_attribute hk, hk]
      rfl

/-- A place holds the attributes that stand before it, each with what its visit says. -/
theorem attributes_placeBehind (above : List Kind) (before : List Node) :
    (placeBehind above before).attributes =
      (pending above before).map fun a => (a.node, a.outline) := by
  induction before with
  | nil => rfl
  | cons n before ih =>
    rw [placeBehind, List.foldr_cons, ← placeBehind, pending, Place.behind]
    split
    · exact ih
    · split
      · rename_i hk
        rw [held, if_pos hk, hk, List.map_append, List.map_reverse, ← ofAttributes_row, ← ih,
          above_placeBehind]
      · rfl

theorem nodes_placeBehind (above : List Kind) (before : List Node) :
    (placeBehind above before).attributes.map (·.1) = Node.outerAttributes before := by
  induction before with
  | nil => rfl
  | cons n before ih => exact Place.nodes_behind n ih

theorem markers_place (s : Site) : markers s.place = Markers.ofAttributes s.outerAttributes :=
  congrArg Markers.ofAttributes (nodes_placeBehind s.above s.before)

theorem map_node_attributes (s : Site) : s.attributes.map node = s.outerAttributes := by
  have hnodes := nodes_placeBehind s.above s.before
  rw [attributes_placeBehind, List.map_map] at hnodes
  exact hnodes

theorem attributesSay_place (s : Site) : attributesSay s.place = s.attributes.flatMap outline := by
  rw [attributesSay, place, attributes_placeBehind, List.flatMap_map]
  rfl

theorem ofChildren_every_children (s : Site) :
    ofChildren .every (s.place.below s.node.kind) s.node.children =
      s.namedChildren.flatMap outline := by
  rw [below_place, ofChildren_row]
  rfl

/-- What the visit of a node says is what the visits say that are made from it, and around that
what the node says itself. -/
theorem outline_eq (s : Site) : s.outline = s.around (s.calls.flatMap outline) := by
  have hevery := s.ofChildren_every_children
  have hpath : s.node.kind.isScopedPath = true →
      ofChildren (.pathField "path") (s.place.below s.node.kind) s.node.children =
        s.hangings.flatMap outline := by
    intro hp
    rw [← ofNode_asPath_eq, ofNode_asPath, Kind.isSegment_of_isScopedPath hp, hp]
    rfl
  have habove : s.place.above = s.above := above_placeBehind _ _
  rw [outline, ofNode_eq, markers_place, attributesSay_place, hevery, habove,
    ofChildren_first]
  cases hk : s.node.kind
  case useDeclaration | externCrateDeclaration => simp only [around, hk]
  case scopedIdentifier | scopedTypeIdentifier =>
    simp only [around, calls, hk]
    rw [← hpath (by rw [hk]; rfl), hk]
  case attributeBody => simp only [around, calls, hk]
  case attributeItem =>
    have howned : s.isOwned = (Node.decorated? s.after).any (·.ownsAttributes s.above) := by
      rw [isOwned, hk]
      rfl
    have hnone : s.ownsAttributes = false := by simp [ownsAttributes, Node.ownsAttributes, hk]
    simp only [around, calls, hk, howned, hnone]
    split <;> rfl
  case block => simp [around, calls, hk, isOwned, ownsAttributes, Node.ownsAttributes]
  case modItem =>
    have hcalls : s.calls = s.attributes ++ s.namedChildren := by
      simp [calls, hk, isOwned, ownsAttributes, Node.ownsAttributes]
    cases hm : Markers.ofAttributes s.outerAttributes <;> simp [around, hk, hm, hcalls]
  case functionItem =>
    have howns : s.ownsAttributes = Node.isFree s.above := by
      simp [ownsAttributes, Node.ownsAttributes, hk]
    have hnone : s.isOwned = false := by simp [isOwned, hk]
    simp only [around, calls, hk, hnone, howns, isFree]
    cases Node.isFree s.above <;> simp
  all_goals simp [around, calls, hk, isOwned, ownsAttributes, Node.ownsAttributes]

end Outlines

/-- Where to go on from a node. It ends, since every site it goes on to is lighter. -/
structure Walk where
  next : Site → List Site
  lighter : ∀ s, ∀ t ∈ next s, t.weight < s.weight

def Walk.reach (w : Walk) (s : Site) : List Site :=
  s :: (w.next s).attach.flatMap fun t => w.reach t.1
termination_by s.weight
decreasing_by exact w.lighter s t.1 t.2

theorem Walk.reach_eq (w : Walk) (s : Site) : w.reach s = s :: (w.next s).flatMap w.reach := by
  rw [reach, List.flatMap_subtype (g := w.reach) (fun _ _ => rfl), List.unattach_attach]

theorem weight_lt_of_namedChild {s t : Site} (h : t ∈ s.namedChildren) : t.weight < s.weight :=
  (within_of_child (mem_children_of_named h)).weight_lt

/-- A visit goes on to attributes before a node, to its named children, and to what hangs off a
path. -/
theorem mem_calls {s t : Site} (h : t ∈ s.calls) :
    t ∈ s.attributes ∨ t ∈ s.namedChildren ∨ s.node.kind.isScopedPath = true ∧ t ∈ s.hangings := by
  unfold calls at h
  split at h
  · cases h
  · cases h
  · rename_i hk
    exact .inr (.inr ⟨Kind.isScopedPath_iff.mpr (.inl hk), h⟩)
  · rename_i hk
    exact .inr (.inr ⟨Kind.isScopedPath_iff.mpr (.inr hk), h⟩)
  · have hf := Option.mem_toList.mp h
    have hn : t.node.named = true := by simpa using List.find?_some hf
    exact .inr (.inl (List.mem_filter.mpr ⟨List.mem_of_find?_eq_some hf, hn⟩))
  · split at h
    · cases h
    · split at h
      · exact (List.mem_append.mp h).imp_right .inl
      · exact .inr (.inl h)

theorem weight_lt_of_call {s t : Site} (h : t ∈ s.calls) : t.weight < s.weight := by
  rcases mem_calls h with h | h | ⟨hp, h⟩
  · exact weight_lt_of_attribute h
  · exact weight_lt_of_namedChild h
  · exact (within_of_hanging hp h).weight_lt

/-- The visits that follow from the visit of a node, that one first, in the order they begin. -/
def visits : Walk := ⟨calls, fun _ _ => weight_lt_of_call⟩

end Site
end CrateUsage
