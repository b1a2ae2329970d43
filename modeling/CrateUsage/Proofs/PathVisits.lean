import Mathlib.Data.Multiset.AddSub
import CrateUsage.Proofs.AttributeVisits
import CrateUsage.Proofs.Gaps
import CrateUsage.Proofs.Visits
import CrateUsage.Rust.Parse

namespace CrateUsage

theorem Node.isOwned_cons (above : List Kind) (n : Node) (ns : List Node) :
    isOwned above (n :: ns) =
      if n.named && !n.isDecoration then n.ownsAttributes above else isOwned above ns := by
  rw [isOwned, decorated?_cons]
  split <;> rfl

namespace Survey

def inTurn : List (Survey → Option Fault × Survey) → Survey → Option Fault × Survey
  | [], v => (none, v)
  | act :: acts, v =>
    match act v with
    | (none, v) => inTurn acts v
    | stopped => stopped

def classify (segment : Node) (v : Survey) : Option Fault × Survey :=
  match segment.read with
  | .ok name => (none, v.refer name (some segment.line))
  | .error kind => (some (.noText kind), v)

theorem inTurn_append (acts more : List (Survey → Option Fault × Survey)) (v : Survey) :
    inTurn (acts ++ more) v =
      match inTurn acts v with
      | (none, v) => inTurn more v
      | stopped => stopped := by
  induction acts generalizing v with
  | nil => rfl
  | cons act acts ih =>
    simp only [List.cons_append, inTurn]
    cases act v with
    | mk fault v =>
      cases fault with
      | none => exact ih v
      | some fault => rfl

theorem runAll_append (a b : Outline) (v : Survey) :
    Step.runAll (a ++ b) v =
      match Step.runAll a v with
      | (none, v) => Step.runAll b v
      | stopped => stopped := by
  induction a generalizing v with
  | nil => rfl
  | cons step a ih =>
    simp only [List.cons_append, Step.runAll]
    cases step.run v with
    | mk fault v =>
      cases fault with
      | none => exact ih v
      | some fault => rfl

theorem runAll_flatMap {α : Type} (f : α → Outline) (as : List α) (v : Survey) :
    Step.runAll (as.flatMap f) v = inTurn (as.map fun a => Step.runAll (f a)) v := by
  induction as generalizing v with
  | nil => rfl
  | cons a as ih =>
    rw [List.flatMap_cons, runAll_append, List.map_cons, inTurn]
    cases Step.runAll (f a) v with
    | mk fault v =>
      cases fault with
      | none => exact ih v
      | some fault => rfl

end Survey

namespace Site

open Survey

def visit (s : Site) (v : Survey) : Option Fault × Survey := Step.runAll s.outline v

def isPath (s : Site) : Bool := s.node.kind.isScopedPath

/-- The named children of one part of a path that are neither the part before it nor hang off it. -/
def strays (s : Site) : List Site :=
  (if s.node.kind.isScopedPath then s.children.eraseP (·.node.label.field == some "path")
    else if s.node.kind = .genericType then
      (s.children.eraseP (·.node.label.field == some "type")).eraseP
        (·.node.label.field == some "type_arguments")
    else if s.node.kind.isSegment then s.children
    else []).filter (·.node.named)

def asides (s : Site) : List Site := s.chain.flatMap strays

theorem calls_of_path {s : Site} (hp : s.isPath = true) : s.calls = s.hangings := by
  rcases Kind.isScopedPath_iff.mp hp with hk | hk <;> simp only [calls, hk]

theorem outline_path {s : Site} (hp : s.isPath = true) :
    s.outline = Outline.pathHead s.node.segments ++ s.hangings.flatMap outline := by
  rw [outline_eq, calls_of_path hp]
  rcases Kind.isScopedPath_iff.mp hp with hk | hk <;> simp only [around, hk]

theorem runAll_pathHead (n : Node) (v : Survey) :
    Step.runAll (Outline.pathHead n.segments) v = inTurn (n.lead.map classify) v := by
  unfold Outline.pathHead Node.lead
  rcases n.segments with _ | ⟨first, _ | ⟨second, others⟩⟩
  · rfl
  · rfl
  · simp only [List.map_singleton, inTurn, classify, Outline.referring, Outline.readingOf,
      Outline.reading]
    cases first.read <;> rfl

theorem visit_eq {s : Site} (hp : s.isPath = true) (v : Survey) :
    s.visit v = inTurn (s.node.lead.map classify ++ s.hangings.map visit) v := by
  rw [visit, outline_path hp, runAll_append, inTurn_append, runAll_pathHead]
  cases inTurn (s.node.lead.map classify) v with
  | mk fault v =>
    cases fault with
    | none => exact runAll_flatMap outline s.hangings v
    | some fault => rfl

theorem visit_ends {s : Site} (hp : s.isPath = true) (ht : s.node.Legible) (v : Survey) :
    (s.visit v).1 = none := by
  have hk : s.node.kind ≠ .attributeItem := by
    intro hk
    rw [isPath, hk] at hp
    cases hp
  have ho : s.node.ownsAttributes s.place.above = false := by
    rcases Kind.isScopedPath_iff.mp hp with hk | hk <;> simp [Node.ownsAttributes, hk]
  -- The attributes before a path are no part of it and may lack a text.
  let bare : Outline.Place := { above := s.place.above }
  have hbare : s.outline = Outline.ofNode false bare s.after s.node :=
    Outline.ofNode_eq_of_above rfl hk ho
  have hx : Explained (fun _ => False) s.outline :=
    hbare ▸ Outline.explained_ofNode false bare s.after s.node ht fun _ ha => by cases ha
  cases hf : (s.visit v).1 with
  | none => rfl
  | some fault =>
    obtain ⟨kind, hm, -⟩ := Step.gap_of_runAll s.outline hf
    exact (hx kind hm).elim

section Asides

variable {s t a : Site}

theorem mem_children_of_strays (h : a ∈ s.strays) : a ∈ s.children := by
  unfold strays at h
  have h := (List.mem_filter.mp h).1
  split at h
  · exact List.mem_of_mem_eraseP h
  · split at h
    · exact List.mem_of_mem_eraseP (List.mem_of_mem_eraseP h)
    · split at h
      · exact h
      · cases h

theorem within_of_aside (h : a ∈ s.asides) : a.Within s := by
  obtain ⟨t, ht, ha⟩ := List.mem_flatMap.mp h
  exact within_of_part ht (mem_children_of_strays ha)

end Asides

/-- Where paths are looked for below a node, attributes among the other children of their row. What
a use tree, an `extern crate` or the arguments of an attribute spell out are no paths of their own,
and neither are the parts of a longer path. -/
def nested (s : Site) : List Site :=
  match s.node.kind with
  | .useDeclaration | .externCrateDeclaration => []
  | .scopedIdentifier | .scopedTypeIdentifier =>
    s.hangings ++ s.asides.filter (!·.node.kind.isComment)
  | .attributeBody => (s.children.find? (·.node.named)).toList
  | _ =>
    if s.isOwned then s.namedChildren.filter (·.node.kind = .attributeBody) else s.namedChildren

theorem weight_lt_of_nested {s t : Site} (h : t ∈ s.nested) : t.weight < s.weight := by
  have hpath : s.isPath = true → t ∈ s.hangings ++ s.asides.filter (!·.node.kind.isComment) →
      t.weight < s.weight := by
    intro hp h
    rcases List.mem_append.mp h with h | h
    · exact (within_of_hanging hp h).weight_lt
    · exact (within_of_aside (List.mem_filter.mp h).1).weight_lt
  unfold nested at h
  split at h
  · cases h
  · cases h
  · rename_i hk
    exact hpath (Kind.isScopedPath_iff.mpr (.inl hk)) h
  · rename_i hk
    exact hpath (Kind.isScopedPath_iff.mpr (.inr hk)) h
  · exact (within_of_child (List.mem_of_find?_eq_some (Option.mem_toList.mp h))).weight_lt
  · split at h
    · exact weight_lt_of_namedChild (List.mem_filter.mp h).1
    · exact weight_lt_of_namedChild h

def nesting : Walk := ⟨nested, fun _ _ => weight_lt_of_nested⟩

def Walk.paths (w : Walk) (sites : List Site) : Multiset Site :=
  ((sites.flatMap w.reach).filter isPath : List Site)

section Counting

variable {w : Walk} {s t : Site} {above : List Kind} {before ns : List Node}

theorem Walk.paths_nil (w : Walk) : w.paths [] = 0 := rfl

theorem Walk.paths_append (w : Walk) (a b : List Site) :
    w.paths (a ++ b) = w.paths a + w.paths b := by
  rw [paths, List.flatMap_append, List.filter_append]
  rfl

theorem Walk.paths_cons (w : Walk) (s : Site) (l : List Site) :
    w.paths (s :: l) = w.paths [s] + w.paths l :=
  w.paths_append [s] l

theorem Walk.paths_reverse (w : Walk) (l : List Site) : w.paths l.reverse = w.paths l := by
  induction l with
  | nil => rfl
  | cons s l ih =>
    rw [List.reverse_cons, paths_append, ih, w.paths_cons s l, Multiset.add_comm]

theorem Walk.paths_site (w : Walk) (s : Site) :
    w.paths [s] = (if s.isPath then {s} else 0) + w.paths (w.next s) := by
  rw [paths, List.flatMap_singleton, reach_eq, List.filter_cons]
  cases s.isPath with
  | true => rfl
  | false => exact (Multiset.zero_add _).symm

theorem Walk.paths_congr {w u : Walk} {l : List Site} (h : ∀ s ∈ l, w.paths [s] = u.paths [s]) :
    w.paths l = u.paths l := by
  induction l with
  | nil => rfl
  | cons s l ih =>
    obtain ⟨hs, hl⟩ := List.forall_mem_cons.mp h
    rw [w.paths_cons, u.paths_cons, hs, ih hl]

theorem Walk.paths_eq_zero {l : List Site} (h : ∀ s ∈ l, w.paths [s] = 0) : w.paths l = 0 := by
  induction l with
  | nil => rfl
  | cons s l ih =>
    obtain ⟨hs, hl⟩ := List.forall_mem_cons.mp h
    rw [w.paths_cons, hs, ih hl, Multiset.zero_add]

structure Agrees (s : Site) : Prop where
  owned : s.isOwned = true → nesting.paths [s] = visits.paths (held s.above s.node)
  alone : s.isOwned = false →
    visits.paths [s] =
      (if s.ownsAttributes then visits.paths s.attributes else 0) + nesting.paths [s]

theorem Agrees.eq_of_plain (h : s.Agrees) (hi : s.isOwned = false)
    (ha : s.ownsAttributes = true → s.attributes = []) :
    visits.paths [s] = nesting.paths [s] := by
  rw [h.alone hi]
  split
  · rename_i ho
    rw [ha ho, Walk.paths_nil, Multiset.zero_add]
  · rw [Multiset.zero_add]

theorem paths_of_owned (h : s.isOwned = true) : visits.paths [s] = 0 := by
  have hk : s.node.kind = .attributeItem := by simpa using (Bool.and_eq_true_iff.mp h).1
  have hp : s.isPath = false := by
    rw [isPath, hk]
    rfl
  have hc : visits.next s = [] := by
    change s.calls = []
    simp [calls, hk, h]
  rw [Walk.paths_site, hp, hc]
  rfl

/-- One node further on in a row: the attributes that are pending are visited by the node if it owns
them, and an attribute item adds its own to them if they are left to an item. -/
theorem paths_step {n : Node} (hn : n.named = true) (h : Agrees ⟨n, before, ns, above⟩) :
    visits.paths [⟨n, before, ns, above⟩] +
        (if Node.isOwned above ns then visits.paths (pending above (n :: before)) else 0) =
      (if Node.isOwned above (n :: ns) then visits.paths (pending above before) else 0) +
        nesting.paths [⟨n, before, ns, above⟩] := by
  rw [Node.isOwned_cons, pending, hn]
  by_cases hk : n.kind = .attributeItem
  · have howned : isOwned ⟨n, before, ns, above⟩ = Node.isOwned above ns := by simp [isOwned, hk]
    have hnone : ownsAttributes ⟨n, before, ns, above⟩ = false := by
      simp [ownsAttributes, Node.ownsAttributes, hk]
    have hd : n.isDecoration = true := by simp [Node.isDecoration, hk]
    have hc : n.kind.isComment = false := by rw [hk]; rfl
    rw [hd, hc, if_pos hk]
    cases ho : Node.isOwned above ns with
    | true =>
      rw [paths_of_owned (howned.trans ho), h.owned (howned.trans ho), Multiset.zero_add]
      exact visits.paths_append _ _
    | false =>
      have heq := h.eq_of_plain (howned.trans ho) (by simp [hnone])
      exact heq ▸ Multiset.add_comm _ _
  · have howned : isOwned ⟨n, before, ns, above⟩ = false := by simp [isOwned, hk]
    cases hc : n.kind.isComment with
    | true =>
      have hd : n.isDecoration = true := by simp [Node.isDecoration, hc]
      have heq := h.eq_of_plain howned fun ho => by
        cases hkind : n.kind <;> simp_all [ownsAttributes, Node.ownsAttributes, Kind.isComment]
      rw [hd]
      exact heq ▸ Multiset.add_comm _ _
    | false =>
      have hd : n.isDecoration = false := by simp [Node.isDecoration, hc, hk]
      have halone := h.alone howned
      rw [hd, if_neg hk, Bool.not_true, Bool.or_self, if_neg Bool.false_ne_true, Walk.paths_nil,
        ite_self, Multiset.add_zero]
      exact halone

/-- By induction on the row: the paths of its attributes are visited with the items below them. -/
theorem paths_row (h : ∀ t ∈ row before above ns, t.Agrees) :
    visits.paths ((row before above ns).filter (·.node.named)) =
      (if Node.isOwned above ns then visits.paths (pending above before) else 0) +
        nesting.paths ((row before above ns).filter (·.node.named)) := by
  induction ns generalizing before with
  | nil => rfl
  | cons n ns ih =>
    obtain ⟨hn, hs⟩ := List.forall_mem_cons.mp h
    have hrest := ih hs
    rw [row, List.filter_cons]
    dsimp only
    cases hnamed : n.named with
    | false => simpa [pending, hnamed, Node.isOwned_cons] using hrest
    | true =>
      generalize (row (n :: before) above ns).filter (·.node.named) = rest at hrest ⊢
      rw [if_pos rfl, visits.paths_cons _ rest, nesting.paths_cons _ rest, hrest,
        ← Multiset.add_assoc, paths_step hnamed hn, Multiset.add_assoc]

end Counting

/-- What is asked of the paths below a node: besides the part before it and what hangs off it, a
part of a path has no named children but leaves that are no paths and comments. No child of a part
is an attribute item, and none is the path of an attribute. -/
structure PlainPaths (s : Site) : Prop where
  asides : ∀ q ∈ s.below, q.isPath = true → ∀ a ∈ q.asides,
    a.node.kind.isComment = true ∨ a.node.children = [] ∧ a.isPath = false
  parts : ∀ q ∈ s.below, q.isPath = true → ∀ t ∈ q.chain, ∀ c ∈ t.children,
    c.node.kind ≠ .attributeItem
  attributes : ∀ q ∈ s.below, q.node.kind = .attributeBody →
    ∀ c ∈ q.children.find? (·.node.named), c.node.kind ≠ .attributeItem

instance (s : Site) : Decidable s.PlainPaths :=
  decidable_of_iff
    ((∀ q ∈ s.below, q.isPath = true → ∀ a ∈ q.asides,
        a.node.kind.isComment = true ∨ a.node.children = [] ∧ a.isPath = false) ∧
      (∀ q ∈ s.below, q.isPath = true → ∀ t ∈ q.chain, ∀ c ∈ t.children,
        c.node.kind ≠ .attributeItem) ∧
      ∀ q ∈ s.below, q.node.kind = .attributeBody →
        ∀ c ∈ q.children.find? (·.node.named), c.node.kind ≠ .attributeItem)
    ⟨fun ⟨ha, hp, ht⟩ => ⟨ha, hp, ht⟩, fun h => ⟨h.asides, h.parts, h.attributes⟩⟩

section Plain

variable {s t a : Site}

theorem PlainPaths.mono (h : s.PlainPaths) (hb : t.below ⊆ s.below) : t.PlainPaths :=
  ⟨fun q hq => h.asides q (hb hq), fun q hq => h.parts q (hb hq),
    fun q hq => h.attributes q (hb hq)⟩

theorem pending_eq_nil {above : List Kind} {before : List Node}
    (h : ∀ n ∈ before, n.named = true → n.kind ≠ .attributeItem) : pending above before = [] := by
  refine List.eq_nil_iff_forall_not_mem.mpr fun a ha => ?_
  obtain ⟨n, hn, hnamed, hh⟩ := mem_pending ha
  exact h n hn hnamed (mem_held hh).1

/-- What hangs off a path has no attributes. -/
theorem attributes_of_hanging (h : s.PlainPaths) (hp : s.isPath = true) (ht : t ∈ s.hangings) :
    t.attributes = [] := by
  obtain ⟨c, hc, ht⟩ := exists_part_of_hanging hp ht
  refine pending_eq_nil fun n hn _ => ?_
  rcases before_subset_of_mem_row ht hn with hn | hn
  · cases hn
  · obtain ⟨d, hd, rfl⟩ := exists_child_of_mem hn
    exact h.parts s s.self_mem_below hp c hc d hd

/-- A leaf that is no path says nothing of paths. -/
theorem paths_of_leaf (hc : a.node.children = []) (hp : a.isPath = false) :
    nesting.paths [a] = 0 := by
  have hnone : a.children = [] := by
    rw [children, hc]
    rfl
  have hn : nesting.next a = [] := by
    change a.nested = []
    unfold nested
    split
    · rfl
    · rfl
    · rename_i hk
      simp [isPath, hk, Kind.isScopedPath] at hp
    · rename_i hk
      simp [isPath, hk, Kind.isScopedPath] at hp
    · rw [hnone]
      rfl
    · simp [namedChildren, hnone]
  rw [Walk.paths_site, hp, hn]
  rfl

theorem paths_hangings (h : s.PlainPaths) (hp : s.isPath = true)
    (ih : ∀ t ∈ s.hangings, t.Agrees) :
    visits.paths s.hangings = nesting.paths s.nested := by
  have hasides : nesting.paths (s.asides.filter (!·.node.kind.isComment)) = 0 := by
    refine Walk.paths_eq_zero fun a ha => ?_
    obtain ⟨ha, hc⟩ := List.mem_filter.mp ha
    rcases h.asides s s.self_mem_below hp a ha with hcomment | ⟨hleaf, hpath⟩
    · rw [hcomment] at hc
      cases hc
    · exact paths_of_leaf hleaf hpath
  have hnested : s.nested = s.hangings ++ s.asides.filter (!·.node.kind.isComment) := by
    rcases Kind.isScopedPath_iff.mp hp with hk | hk <;> simp only [nested, hk]
  rw [hnested, Walk.paths_append, hasides, Multiset.add_zero]
  refine Walk.paths_congr fun t ht => (ih t ht).eq_of_plain ?_ fun _ =>
    attributes_of_hanging h hp ht
  obtain ⟨c, hc, htc⟩ := exists_part_of_hanging hp ht
  simp [isOwned, h.parts s s.self_mem_below hp c hc t htc]

theorem paths_namedChildren (h : ∀ c ∈ s.children, c.Agrees) :
    visits.paths s.namedChildren = nesting.paths s.namedChildren := by
  have hrow := paths_row h
  rw [pending, Walk.paths_nil, ite_self, Multiset.zero_add] at hrow
  exact hrow

theorem paths_held (h : ∀ c ∈ s.children, c.Agrees) (ho : s.isOwned = true) :
    nesting.paths [s] = visits.paths (held s.above s.node) := by
  have hk : s.node.kind = .attributeItem := by simpa using (Bool.and_eq_true_iff.mp ho).1
  have hnext : nesting.next s =
      s.children.filter fun a => a.node.named && a.node.kind = .attributeBody := by
    change s.nested = _
    simp [nested, hk, ho, namedChildren, List.filter_filter, Bool.and_comm]
  have hp : s.isPath = false := by
    rw [isPath, hk]
    rfl
  rw [Walk.paths_site, hp, hnext, held, if_pos hk, Walk.paths_reverse]
  refine (Multiset.zero_add _).trans (Walk.paths_congr fun a ha => Eq.symm ?_)
  obtain ⟨hm, ha⟩ := List.mem_filter.mp ha
  have hbody : a.node.kind = .attributeBody := by simpa using (Bool.and_eq_true_iff.mp ha).2
  exact (h a hm).eq_of_plain (by simp [isOwned, hbody])
    (by simp [ownsAttributes, Node.ownsAttributes, hbody])

/-- No attributes stand before the first named node of a row. -/
theorem attributes_of_first {above : List Kind} {ns : List Node}
    (h : (row [] above ns).find? (·.node.named) = some t) : t.attributes = [] := by
  have hbefore : ∀ (before : List Node), (∀ n ∈ before, n.named = false) →
      (row before above ns).find? (·.node.named) = some t → ∀ n ∈ t.before, n.named = false := by
    clear h
    induction ns with
    | nil => intro before _ h; cases h
    | cons n ns ih =>
      intro before hb h
      rw [row, List.find?_cons] at h
      cases hn : n.named with
      | true =>
        rw [hn] at h
        cases h
        exact hb
      | false =>
        rw [hn] at h
        exact ih (n :: before) (List.forall_mem_cons.mpr ⟨hn, hb⟩) h
  refine pending_eq_nil fun n hn hnamed => ?_
  rw [hbefore [] (by simp) h n hn] at hnamed
  cases hnamed

/-- By cases on the construct: the visits made from a node come to the paths below it. -/
theorem paths_calls (h : s.PlainPaths) (ho : s.isOwned = false)
    (hchild : ∀ c ∈ s.children, c.Agrees) (hhang : s.isPath = true → ∀ t ∈ s.hangings, t.Agrees) :
    visits.paths s.calls =
      (if s.ownsAttributes then visits.paths s.attributes else 0) + nesting.paths s.nested := by
  have hrow : s.calls = (if s.ownsAttributes then s.attributes ++ s.namedChildren
      else s.namedChildren) → s.nested = s.namedChildren →
      visits.paths s.calls = (if s.ownsAttributes then visits.paths s.attributes else 0) +
        nesting.paths s.nested := by
    intro hc hn
    rw [hc, hn, ← paths_namedChildren hchild]
    split
    · exact visits.paths_append _ _
    · exact (Multiset.zero_add _).symm
  have hsame : s.ownsAttributes = false → visits.paths s.calls = nesting.paths s.nested →
      visits.paths s.calls = (if s.ownsAttributes then visits.paths s.attributes else 0) +
        nesting.paths s.nested := by
    intro hn he
    rw [hn, he]
    exact (Multiset.zero_add _).symm
  have hpath : s.isPath = true → visits.paths s.calls = nesting.paths s.nested := by
    intro hp
    rw [calls_of_path hp, paths_hangings h hp (hhang hp)]
  cases hk : s.node.kind
  case useDeclaration | externCrateDeclaration =>
    refine hsame (by simp [ownsAttributes, Node.ownsAttributes, hk]) ?_
    simp only [calls, nested, hk, Walk.paths_nil]
  case scopedIdentifier | scopedTypeIdentifier =>
    refine hsame (by simp [ownsAttributes, Node.ownsAttributes, hk]) (hpath ?_)
    simp [isPath, hk, Kind.isScopedPath]
  case attributeBody =>
    refine hsame (by simp [ownsAttributes, Node.ownsAttributes, hk]) ?_
    simp only [calls, nested, hk]
    refine Walk.paths_congr fun c hc => ?_
    have hc := Option.mem_toList.mp hc
    have hitem : c.node.kind ≠ .attributeItem := h.attributes s s.self_mem_below hk c hc
    exact (hchild c (List.mem_of_find?_eq_some hc)).eq_of_plain (by simp [isOwned, hitem])
      fun _ => attributes_of_first hc
  all_goals exact hrow (by simp [calls, hk, ho]) (by simp [nested, hk, ho])

/-- By induction on the weight, which counts the attributes before a node as well. -/
theorem PlainPaths.agrees (h : s.PlainPaths) : s.Agrees := by
  induction s using weight_induction with
  | h s ih =>
  have hchild : ∀ c ∈ s.children, c.Agrees := fun c hc =>
    ih c (within_of_child hc).weight_lt (h.mono (below_subset_of_child hc))
  have hhang : s.isPath = true → ∀ t ∈ s.hangings, t.Agrees := fun hp t ht =>
    ih t (within_of_hanging hp ht).weight_lt (h.mono (below_subset_of_hanging hp ht))
  refine ⟨paths_held hchild, fun ho => ?_⟩
  rw [visits.paths_site, nesting.paths_site]
  change _ + visits.paths s.calls = _ + (_ + nesting.paths s.nested)
  rw [paths_calls h ho hchild hhang, ← Multiset.add_assoc, ← Multiset.add_assoc]
  congr 1
  exact Multiset.add_comm _ _

end Plain

/-- The visit of a path refers to the crate that its first segment may name, if it has two segments
or more, then visits what hangs off it, from left to right, and does nothing else. So the paths that
are nested in it are visited once each, and no part of a path is visited for itself. -/
theorem visit_path {s : Site} (hp : s.isPath = true) :
    (∀ v, s.visit v = inTurn (s.node.lead.map classify ++ s.hangings.map visit) v) ∧
      (∀ t : Site, t.outline = t.around (t.calls.flatMap outline)) ∧
      (s.node.Legible → s.PlainPaths → (∀ v, (s.visit v).1 = none) ∧
        ((visits.reach s).filter isPath).Perm ((nesting.reach s).filter isPath)) := by
  refine ⟨visit_eq hp, outline_eq, fun ht h => ⟨visit_ends hp ht, ?_⟩⟩
  have hitem : s.isOwned = false ∧ s.ownsAttributes = false := by
    rcases Kind.isScopedPath_iff.mp hp with hk | hk <;>
      simp [isOwned, ownsAttributes, Node.ownsAttributes, hk]
  have hpaths : visits.paths [s] = nesting.paths [s] :=
    h.agrees.eq_of_plain hitem.1 (by simp [hitem.2])
  simpa only [Walk.paths, List.flatMap_singleton, Multiset.coe_eq_coe] using hpaths

/-- A path that goes on from a type with a trait, with generic arguments in both. -/
theorem visit_path_of_trait :
    ∃ s ∈ (Rust.parse "fn f() { <T as x::Y<z::W>>::f::<v::U>::g(); }").sites,
      s.isPath = true ∧ s.node.Legible ∧ s.PlainPaths ∧ (∀ v, (s.visit v).1 = none) ∧
        ((visits.reach s).filter isPath).Perm ((nesting.reach s).filter isPath) ∧
        ((nesting.reach s).filter isPath).map (·.node.text) =
          [some "<T as x::Y<z::W>>::f::<v::U>::g", some "x::Y", some "z::W", some "v::U"] := by
  have hpath : ∃ s ∈ (Rust.parse "fn f() { <T as x::Y<z::W>>::f::<v::U>::g(); }").sites,
      s.isPath = true ∧ (∀ m ∈ s.node.preorder, m.text.isSome = true) ∧ s.PlainPaths ∧
        ((nesting.reach s).filter isPath).map (·.node.text) =
          [some "<T as x::Y<z::W>>::f::<v::U>::g", some "x::Y", some "z::W", some "v::U"] := by
    decide +kernel
  obtain ⟨s, hs, hp, ht, h, htexts⟩ := hpath
  obtain ⟨-, -, hall⟩ := visit_path hp
  obtain ⟨hends, hperm⟩ := hall (Node.legible_of_isSome ht) h
  exact ⟨s, hs, hp, Node.legible_of_isSome ht, h, hends, hperm, htexts⟩

/-- A path in a use tree is nested in the path around it, but no visit comes to it: the declaration
reads the tree on its own. -/
theorem visit_path_around_use :
    let root := Rust.parse "fn f() { A::<{ use std::{io::Result}; 1 }>::g(); }"
    (∃ s ∈ root.sites, s.isPath = true ∧ s.node.Legible ∧ s.PlainPaths ∧
      ∃ h ∈ s.hangings, ∃ q ∈ h.below, q.isPath = true ∧ q ∉ visits.reach s) ∧
        root.discover.toOption.map (·.normal) = some ["A", "std"] := by
  intro root
  have hpath : ∃ s ∈ root.sites, s.isPath = true ∧
      (∀ m ∈ s.node.preorder, m.text.isSome = true) ∧ s.PlainPaths ∧
      (∃ h ∈ s.hangings, ∃ q ∈ h.below, q.isPath = true ∧ q.node.text = some "io::Result") ∧
        ∀ t ∈ visits.reach s, t.node.text ≠ some "io::Result" := by
    decide +kernel
  obtain ⟨s, hs, hp, ht, h, ⟨hanging, hh, q, hq, hqp, hqt⟩, hall⟩ := hpath
  refine ⟨⟨s, hs, hp, Node.legible_of_isSome ht, h, hanging, hh, q, hq, hqp, ?_⟩, ?_⟩
  · exact fun hm => hall q hm hqt
  · decide +kernel

end Site
end CrateUsage
