import CrateUsage.Proofs.ExchangedOutlines
import CrateUsage.Proofs.Meaning

namespace CrateUsage

/-- How far the nodes above a node look at its texts: at all of them, at its own, at those of its
segments, and at those of its children. -/
structure Regard where
  every : Bool := false
  own : Bool := false
  segments : Bool := false
  children : Bool := false

namespace Regard

def reads (r : Regard) (kind : Kind) : Bool := r.every || r.own || (r.segments && kind.isSegment)

end Regard

namespace Node

def isChildIn (n : Node) (field : String) (i : Nat) : Bool :=
  n.children.findIdx? (·.label.field == some field) == some i

theorem isChildIn_iff {n : Node} {field : String} {i : Nat} : n.isChildIn field i = true ↔
    n.children.findIdx? (·.label.field == some field) = some i :=
  beq_iff_eq

/-- How far a child of a node is looked at. What stands in a `use` or an `extern crate` is looked at
in full, of a path its segments, of a module and of a function the name, and of an attribute its
path and the tokens of its arguments. -/
def regardOf (r : Regard) (n : Node) (i : Nat) : Regard where
  every := r.every || n.kind = .useDeclaration || n.kind = .externCrateDeclaration
  own :=
    r.children
      || ((n.kind.isScopedPath || n.kind = .modItem || n.kind = .functionItem)
        && n.isChildIn "name" i)
      || (n.kind = .attributeBody && n.children.findIdx? named == some i)
  segments :=
    (n.kind.isScopedPath && n.isChildIn "path" i)
      || (r.segments && n.kind = .genericType && n.isChildIn "type" i)
  children := n.kind = .attributeBody && n.isChildIn "arguments" i

mutual
/-- A tree without the texts that nothing looks at. Its shape stays: the kinds and fields, which
nodes are named, and where they stand in the file. -/
def stripped (r : Regard) : Node → Node
  | .mk l cs =>
    .mk { l with text := if r.reads l.kind then l.text else none }
      (strippedAll (regardOf r (.mk l cs)) cs)

def strippedAll (r : Nat → Regard) : List Node → List Node
  | [] => []
  | n :: ns => n.stripped (r 0) :: strippedAll (fun i => r (i + 1)) ns
end

section Labels

variable (r : Regard) (n : Node)

@[simp] theorem children_stripped :
    (n.stripped r).children = strippedAll (n.regardOf r) n.children := by
  cases n
  rfl

@[simp] theorem kind_stripped : (n.stripped r).kind = n.kind := by
  cases n
  rfl

@[simp] theorem named_stripped : (n.stripped r).named = n.named := by
  cases n
  rfl

@[simp] theorem field_stripped : (n.stripped r).label.field = n.label.field := by
  cases n
  rfl

@[simp] theorem line_stripped : (n.stripped r).line = n.line := by
  cases n
  rfl

variable {r n}

theorem label_stripped (h : r.reads n.kind = true) : (n.stripped r).label = n.label := by
  obtain ⟨l, cs⟩ := n
  have hl : r.reads l.kind = true := h
  simp only [stripped, label_mk, hl, if_true]

theorem read_stripped (h : r.reads n.kind = true) : (n.stripped r).read = n.read := by
  have hl := label_stripped h
  simp only [read, text, kind, hl]

theorem mention_stripped (h : r.reads n.kind = true) : (n.stripped r).mention = n.mention := by
  rw [mention, mention, read_stripped h, line_stripped]

end Labels

mutual
/-- Where all texts are looked at, none goes. -/
theorem stripped_of_every : ∀ {r : Regard} (n : Node), r.every = true → n.stripped r = n
  | r, .mk l cs, h => by
    have hl : r.reads l.kind = true := by simp [Regard.reads, h]
    have hcs := strippedAll_of_every cs fun i =>
      (by simp [regardOf, h] : ((Node.mk l cs).regardOf r i).every = true)
    rw [stripped, hcs, hl]
    rfl

theorem strippedAll_of_every : ∀ {r : Nat → Regard} (ns : List Node), (∀ i, (r i).every = true) →
    strippedAll r ns = ns
  | _, [], _ => rfl
  | _, n :: ns, h => by
    rw [strippedAll, stripped_of_every n (h 0), strippedAll_of_every ns fun i => h (i + 1)]
end

section Rows

variable {α : Type} {g : Node → α}

/-- What is found in a row by name and field is found where it was. -/
theorem map_find?_strippedAll (q : Bool → Option String → Bool) : ∀ (ns : List Node)
    {r : Nat → Regard}, (∀ i n, ns.findIdx? (fun n => q n.named n.label.field) = some i →
      g (n.stripped (r i)) = g n) →
      ((strippedAll r ns).find? fun n => q n.named n.label.field).map g =
        (ns.find? fun n => q n.named n.label.field).map g
  | [], _, _ => rfl
  | n :: ns, r, h => by
    rw [strippedAll, List.find?_cons, List.find?_cons, named_stripped, field_stripped]
    cases hq : q n.named n.label.field with
    | true => exact congrArg some (h 0 n (by simp [List.findIdx?_cons, hq]))
    | false =>
      apply map_find?_strippedAll q ns
      intro i m hi
      exact h (i + 1) m (by simp [List.findIdx?_cons, hq, hi])

variable {n : Node} {r : Regard}

theorem map_child?_stripped (field : String)
    (h : ∀ i c, n.isChildIn field i = true → g (c.stripped (n.regardOf r i)) = g c) :
    ((n.stripped r).child? field).map g = (n.child? field).map g := by
  unfold child?
  rw [children_stripped]
  apply map_find?_strippedAll fun _ at_ => at_ == some field
  intro i c hi
  exact h i c (isChildIn_iff.mpr hi)

theorem map_firstNamed_stripped (h : ∀ i c, n.children.findIdx? named = some i →
    g (c.stripped (n.regardOf r i)) = g c) :
    (n.stripped r).namedChildren.head?.map g = n.namedChildren.head?.map g := by
  unfold namedChildren
  rw [List.head?_filter, List.head?_filter, children_stripped]
  exact map_find?_strippedAll (fun isNamed _ => isNamed) n.children h

/-- Where the text of each node of a row is looked at, all labels are kept. -/
theorem map_label_strippedAll (ns : List Node) {r : Nat → Regard} (h : ∀ i, (r i).own = true) :
    (strippedAll r ns).map label = ns.map label := by
  induction ns generalizing r with
  | nil => rfl
  | cons n ns ih =>
    have hreads : (r 0).reads n.kind = true := by simp [Regard.reads, h 0]
    rw [strippedAll, List.map_cons, List.map_cons, label_stripped hreads, ih fun i => h (i + 1)]

theorem isOwned_strippedAll (above : List Kind) (ns : List Node) {r : Nat → Regard} :
    isOwned above (strippedAll r ns) = isOwned above ns := by
  induction ns generalizing r with
  | nil => rfl
  | cons n ns ih =>
    have hrest := ih (r := fun i => r (i + 1))
    unfold isOwned at hrest ⊢
    rw [strippedAll, decorated?_cons, decorated?_cons, named_stripped, isDecoration, isDecoration,
      kind_stripped]
    split
    · simp only [Option.any_some, ownsAttributes, kind_stripped]
    · exact hrest

end Rows

mutual
/-- By induction on the path: its segments keep their texts, and nothing else becomes one. -/
theorem segments_stripped : ∀ (n : Node) {r : Regard},
    (r.segments = true ∨ n.kind.isScopedPath = true) →
      (n.stripped r).segments.map mention = n.segments.map mention
  | .mk l cs, r, h => by
    have hat := fun field => segmentsAt_strippedAll field cs (r := (Node.mk l cs).regardOf r)
    rw [segments_eq, segments_eq (Node.mk l cs), kind_stripped, children_stripped]
    split
    · rename_i hk
      have hname : (((Node.mk l cs).stripped r).child? "name").map mention =
          ((Node.mk l cs).child? "name").map mention := by
        apply map_child?_stripped "name"
        intro i c hi
        apply mention_stripped
        simp [Regard.reads, regardOf, hk, hi]
      have hpath := hat "path" fun i hi => by
        have hin : (Node.mk l cs).isChildIn "path" i = true := isChildIn_iff.mpr hi
        simp [regardOf, hk, hin]
      rw [List.map_append, List.map_append, ← Option.toList_map, ← Option.toList_map, hname]
      exact congrArg (· ++ _) hpath
    · rename_i hk
      have hsegments : r.segments = true := h.resolve_right hk
      split
      · rename_i hg
        apply hat "type"
        intro i hi
        have hin : (Node.mk l cs).isChildIn "type" i = true := isChildIn_iff.mpr hi
        simp [regardOf, hsegments, hg, hin]
      · split
        · rename_i hs
          have hreads : r.reads (Node.mk l cs).kind = true := by
            simp [Regard.reads, hsegments, hs]
          rw [List.map_singleton, List.map_singleton, mention_stripped hreads]
        · rfl

theorem segmentsAt_strippedAll (field : String) : ∀ (ns : List Node) {r : Nat → Regard},
    (∀ i, ns.findIdx? (·.label.field == some field) = some i → (r i).segments = true) →
      (segmentsAt field (strippedAll r ns)).map mention = (segmentsAt field ns).map mention
  | [], _, _ => rfl
  | n :: ns, r, h => by
    rw [strippedAll, segmentsAt, segmentsAt, field_stripped]
    split
    · rename_i hf
      exact segments_stripped n (.inl (h 0 (by simp [List.findIdx?_cons, hf])))
    · rename_i hf
      apply segmentsAt_strippedAll field ns
      intro i hi
      exact h (i + 1) (by simp [List.findIdx?_cons, hf, hi])
end

end Node

namespace Attribute

variable {a : Node} (r : Regard)

theorem name_stripped (hk : a.kind = .attributeBody) : name (a.stripped r) = name a := by
  have hpath : (a.stripped r).namedChildren.head?.map Node.label =
      a.namedChildren.head?.map Node.label := by
    apply Node.map_firstNamed_stripped
    intro i c hi
    apply Node.label_stripped
    simp [Regard.reads, Node.regardOf, hk, hi]
  rw [name_eq, name_eq, hpath]

theorem isCfgTest_stripped (hk : a.kind = .attributeBody) :
    isCfgTest (a.stripped r) = isCfgTest a := by
  have htokens :
      ((a.stripped r).child? "arguments").map (fun list => list.children.map Node.label) =
        (a.child? "arguments").map fun list => list.children.map Node.label := by
    apply Node.map_child?_stripped "arguments"
    intro i c hi
    rw [Node.children_stripped]
    apply Node.map_label_strippedAll
    intro j
    simp [Node.regardOf, hk, hi]
  have hsays : ∀ list : Option Node, (list.map Node.surface).elim (pure false) (fun list =>
      saysTest list.2.2) =
      (list.map fun list => list.children.map Node.label).elim (pure false) saysTest := by
    intro list
    cases list <;> rfl
  rw [isCfgTest_eq, isCfgTest_eq, name_stripped r hk, hsays, hsays, htokens]

end Attribute

namespace Outline

open Node (stripped strippedAll regardOf)

theorem sameHead_stripped (r : Regard) (n : Node) : SameHead n (n.stripped r) where
  kind := n.kind_stripped r
  path hk := by
    have hview : pathView (n.stripped r) = pathView n := by
      rw [pathView, pathView, Node.line_stripped, Node.segments_stripped n (.inr hk)]
    exact pathHead_of_view hview
  argument hk := by
    have hsame : (n.stripped r).children = n.children := by
      rw [Node.children_stripped]
      apply Node.strippedAll_of_every
      intro i
      simp [regardOf, hk]
    rw [Node.child?, Node.child?, hsame]
  name hk := by
    apply Node.map_child?_stripped "name"
    intro i c hi
    apply Node.mention_stripped
    rcases hk with hk | hk | hk
    · simp [Regard.reads, regardOf, hk]
    · simp [Regard.reads, regardOf, hk, hi]
    · simp [Regard.reads, regardOf, hk, hi]

mutual
/-- By induction on the tree, together for a node, a row of children and a row of attributes: what a
tree says is told by the texts that are left. -/
theorem ofNode_stripped : ∀ (n : Node) (r : Regard) (asPath : Bool) {p q : Place},
    PlaceExchanged (· = ·) p q → ∀ {after rest : List Node},
      Node.isOwned p.above rest = Node.isOwned p.above after →
        ofNode asPath p after n = ofNode asPath q rest (n.stripped r)
  | .mk l cs, r, asPath, p, q, hp, after, rest, ho => by
    rw [ofNode_eq_saying, ofNode_eq_saying, Node.kind_stripped]
    refine compatible_eq.saying_of_sameHead (sameHead_stripped r (.mk l cs)) asPath hp ho
      fun choice _ => ?_
    rw [Node.children_stripped]
    exact ofChildren_strippedAll cs _ choice (hp.below l.kind)

theorem ofChildren_strippedAll : ∀ (ns : List Node) (r : Nat → Regard) (choice : Choice)
    {p q : Place}, PlaceExchanged (· = ·) p q →
      ofChildren choice p ns = ofChildren choice q (strippedAll r ns)
  | [], _, _, _, _, _ => rfl
  | n :: ns, r, choice, p, q, hp => by
    have hsaid := ofNode_stripped n (r 0) choice.asPath hp
      (Node.isOwned_strippedAll p.above ns (r := fun i => r (i + 1)))
    have hbehind : PlaceExchanged (· = ·) (p.behind n) (q.behind (n.stripped (r 0))) := by
      apply hp.behind
      · exact n.named_stripped (r 0)
      · rw [Node.kind_stripped]
      · rw [Node.kind_stripped]
      · intro _
        rw [hp.above, Node.children_stripped]
        exact match n with
          | .mk _ cs => ofAttributes_strippedAll cs _ p.above
    have hrest := ofChildren_strippedAll ns (fun i => r (i + 1)) choice hbehind
    have htakes : choice.takes (n.stripped (r 0)).label = choice.takes n.label := by
      have hnamed : (n.stripped (r 0)).label.named = n.label.named := n.named_stripped (r 0)
      cases choice <;> simp only [Choice.takes, hnamed, Node.field_stripped]
    rw [strippedAll]
    by_cases he : choice = .every
    · subst he
      rw [ofChildren_every_cons, ofChildren_every_cons, Node.named_stripped, hrest]
      split
      · exact congrArg (· ++ _) hsaid
      · rfl
    · rw [ofChildren_cons he, ofChildren_cons he, htakes]
      split
      · exact hsaid
      · exact hrest

theorem ofAttributes_strippedAll : ∀ (ns : List Node) (r : Nat → Regard) (above : List Kind),
    List.Forall₂ (AttributeExchanged (· = ·)) (ofAttributes above ns)
      (ofAttributes above (strippedAll r ns))
  | [], _, _ => .nil
  | n :: ns, r, above => by
    rw [strippedAll, ofAttributes_cons, ofAttributes_cons, Node.named_stripped, Node.kind_stripped]
    refine List.rel_append ?_ (ofAttributes_strippedAll ns (fun i => r (i + 1)) above)
    split
    · rename_i hb
      have hk : n.kind = .attributeBody := of_decide_eq_true (Bool.and_eq_true_iff.mp hb).2
      have hplace : PlaceExchanged (· = ·) ⟨n.kind :: .attributeItem :: above, []⟩
          ⟨n.kind :: .attributeItem :: above, []⟩ := ⟨rfl, .nil⟩
      have hfirst : ofChildren .first ⟨n.kind :: .attributeItem :: above, []⟩ n.children =
          ofChildren .first ⟨n.kind :: .attributeItem :: above, []⟩
            (n.stripped (r 0)).children := by
        rw [Node.children_stripped]
        exact match n with
          | .mk _ cs => ofChildren_strippedAll cs _ .first hplace
      exact .cons ⟨Attribute.name_stripped (r 0) hk, Attribute.isCfgTest_stripped (r 0) hk, hfirst⟩
        .nil
    · exact .nil
end

end Outline

namespace Node

theorem outline_stripped (root : Node) : (root.stripped {}).outline = root.outline :=
  (Outline.ofNode_stripped root {} false ⟨rfl, .nil⟩ rfl).symm

/-- Bare names make no difference: trees that differ in nothing but texts that are not looked at
come to the same crates, records and hints, or to the same fault. -/
theorem discover_of_stripped {a b : Node} (h : b.stripped {} = a.stripped {}) :
    b.discover = a.discover := by
  rw [b.discover_eq_outline, a.discover_eq_outline, ← b.outline_stripped, ← a.outline_stripped, h]

/-- A function that is called by a bare name says no more with the name than without a text. -/
theorem discover_of_called :
    let body (called : Option String) : List Node :=
      [mk { kind := .identifier, text := called } [], twoSegments none "serde" "de"]
    let file (called : Option String) : Node :=
      worded .sourceFile none "" [
        worded .functionItem none "" [
          worded .identifier (some "name") "f" [],
          worded .block (some "body") "" (body called)]]
    (file none).stripped {} = (file (some "rand")).stripped {} ∧
      (file none).discover = (file (some "rand")).discover ∧
      (file none).discover.toOption.map (·.normal) = some ["serde"] := by
  intro body file
  have hsame : (file none).stripped {} = (file (some "rand")).stripped {} := rfl
  exact ⟨hsame, discover_of_stripped hsame, by decide⟩

end Node
end CrateUsage
