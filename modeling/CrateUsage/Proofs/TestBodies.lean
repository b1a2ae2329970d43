import CrateUsage.Proofs.Surface

namespace CrateUsage

namespace Kind

def isItem : Kind → Bool
  | .modItem | .functionItem => true
  | _ => false

def isPlain : Kind → Bool
  | .block | .modItem | .functionItem | .attributeItem => false
  | _ => true

theorem isItem_of_isPlain {kind : Kind} (h : kind.isPlain = true) : kind.isItem = false := by
  cases kind <;> first | rfl | cases h

theorem isItem_eq_false {kind : Kind} (hm : kind ≠ .modItem) (hf : kind ≠ .functionItem) :
    kind.isItem = false := by
  unfold isItem
  split
  · contradiction
  · contradiction
  · rfl

theorem isPlain_of_isScopedPath {kind : Kind} (h : kind.isScopedPath = true) :
    kind.isPlain = true := by
  cases kind <;> first | rfl | cases h

end Kind

namespace Node

def markedBy (before : List Node) (marker : Markers → Bool) : Bool :=
  (Markers.ofAttributes (outerAttributes before)).toOption.any marker

/-- A module or a free function that only tests are built from. An outermost function `main` is
the entry point, whatever its attributes say. -/
def isTestItem (outermost : Bool) (above : List Kind) (before : List Node) (n : Node) : Bool :=
  match n.kind with
  | .modItem => markedBy before Markers.isCfgTest
  | .functionItem =>
    isFree above && markedBy before Markers.isTest &&
      !(outermost && (n.child? "name").bind text = some "main")
  | _ => false

/-- Whether the children of a node still stand outside of every block, module and free function.
Attributes stand in the scope of the item that reads them. -/
def keepsOutermost (above : List Kind) (after : List Node) (n : Node) : Bool :=
  !(n.kind = .block || n.ownsAttributes above ||
    (n.kind = .attributeItem && (decorated? after).any (·.ownsAttributes above)))

mutual
/-- The tree with every body emptied that only tests are built from. The body itself stays. -/
def emptied (outermost : Bool) (above : List Kind) (before after : List Node) : Node → Node
  | .mk l cs =>
    .mk l (emptiedAll (isTestItem outermost above before (.mk l cs))
      (outermost && keepsOutermost above after (.mk l cs)) (l.kind :: above) [] cs)

def emptiedAll (ofTest outermost : Bool) (above : List Kind) (before : List Node) :
    List Node → List Node
  | [] => []
  | .mk l cs :: after =>
    (if ofTest && l.field == some "body" then .mk l []
      else emptied outermost above before after (.mk l cs)) ::
      emptiedAll ofTest outermost above (.mk l cs :: before) after
end

def withoutTestBodies (root : Node) : Node := root.emptied true [] [] []

@[simp] theorem label_emptied (outermost : Bool) (above : List Kind) (before after : List Node)
    (n : Node) : (n.emptied outermost above before after).label = n.label := by
  cases n
  rfl

theorem labels_emptiedAll (ofTest outermost : Bool) (above : List Kind) (before ns : List Node) :
    (emptiedAll ofTest outermost above before ns).map label = ns.map label := by
  induction ns generalizing before with
  | nil => rfl
  | cons n ns ih =>
    obtain ⟨l, cs⟩ := n
    simp only [emptiedAll, List.map_cons, ih]
    split <;> simp

@[simp] theorem kind_emptied (outermost : Bool) (above : List Kind) (before after : List Node)
    (n : Node) : (n.emptied outermost above before after).kind = n.kind :=
  congrArg Label.kind (label_emptied outermost above before after n)

@[simp] theorem named_emptied (outermost : Bool) (above : List Kind) (before after : List Node)
    (n : Node) : (n.emptied outermost above before after).named = n.named :=
  congrArg Label.named (label_emptied outermost above before after n)

theorem emptiedAll_cons (outermost : Bool) (above : List Kind) (before : List Node) (n : Node)
    (after : List Node) :
    emptiedAll false outermost above before (n :: after) =
      n.emptied outermost above before after ::
        emptiedAll false outermost above (n :: before) after := by
  cases n
  rfl

/-- Only the children of a test item lose anything themselves. -/
theorem children_emptied {outermost : Bool} {above : List Kind} {before : List Node} {n : Node}
    (after : List Node) (h : isTestItem outermost above before n = false) :
    (n.emptied outermost above before after).children =
      emptiedAll false (outermost && keepsOutermost above after n) (n.kind :: above) []
        n.children := by
  obtain ⟨l, cs⟩ := n
  simp only [emptied, h, children_mk]
  rfl

theorem isTestItem_of_kind (outermost : Bool) (above : List Kind) (before : List Node) {n : Node}
    {kind : Kind} (hk : n.kind = kind) (h : kind.isItem = false) :
    isTestItem outermost above before n = false := by
  unfold isTestItem
  rw [hk]
  cases kind <;> first | rfl | cases h

theorem keepsOutermost_of_plain (above : List Kind) (after : List Node) {n : Node} {kind : Kind}
    (hk : n.kind = kind) (h : kind.isPlain = true) : keepsOutermost above after n = true := by
  unfold keepsOutermost ownsAttributes
  rw [hk]
  cases kind <;> first | rfl | cases h

theorem find?_label_emptiedAll (q : Label → Bool) (ofTest outermost : Bool) (above : List Kind)
    (before ns : List Node) :
    ((emptiedAll ofTest outermost above before ns).find? (q ·.label)).map label =
      (ns.find? (q ·.label)).map label := by
  have hfind : ∀ ms : List Node, (ms.find? (q ·.label)).map label = (ms.map label).find? q := by
    intro ms
    rw [List.find?_map]
    rfl
  rw [hfind, hfind, labels_emptiedAll]

theorem label_child?_emptied (outermost : Bool) (above : List Kind) (before after : List Node)
    (n : Node) (field : String) :
    ((n.emptied outermost above before after).child? field).map label =
      (n.child? field).map label := by
  obtain ⟨l, cs⟩ := n
  exact find?_label_emptiedAll (·.field == some field) _ _ _ [] cs

theorem read_child?_emptied (outermost : Bool) (above : List Kind) (before after : List Node)
    (n : Node) (field : String) :
    ((n.emptied outermost above before after).child? field).map read =
      (n.child? field).map read := by
  have hread : ∀ o : Option Node, o.map read = (o.map label).map fun l => (mk l []).read := by
    intro o
    cases o <;> rfl
  rw [hread, hread, label_child?_emptied]

mutual
/-- By induction on the path: no segment of a path is inside of a body. -/
theorem segments_emptied (outermost : Bool) (above : List Kind) (before after : List Node) :
    ∀ n : Node, (n.emptied outermost above before after).segments.map label =
      n.segments.map label
  | .mk l cs => by
    have hat : ∀ field, isTestItem outermost above before (.mk l cs) = false →
        (segmentsAt field
          ((Node.mk l cs).emptied outermost above before after).children).map label =
          (segmentsAt field cs).map label := by
      intro field h
      rw [children_emptied after h]
      exact segmentsAt_emptiedAll field _ _ [] cs
    rw [segments_eq, segments_eq (.mk l cs), kind_emptied]
    split
    · rename_i hk
      have hitem := Kind.isItem_of_isPlain (Kind.isPlain_of_isScopedPath hk)
      have hname := find?_label_emptiedAll (·.field == some "name")
        (isTestItem outermost above before (.mk l cs))
        (outermost && keepsOutermost above after (.mk l cs)) (l.kind :: above) [] cs
      rw [List.map_append, List.map_append, hat "path" (isTestItem_of_kind _ _ _ rfl hitem)]
      congr 1
      rw [← Option.toList_map, ← Option.toList_map]
      exact congrArg Option.toList hname
    · split
      · rename_i hk
        exact hat "type" (isTestItem_of_kind _ _ _ hk rfl)
      · split
        · simp
        · rfl

theorem segmentsAt_emptiedAll (field : String) (outermost : Bool) (above : List Kind)
    (before : List Node) : ∀ ns : List Node,
      (segmentsAt field (emptiedAll false outermost above before ns)).map label =
        (segmentsAt field ns).map label
  | [] => rfl
  | n :: ns => by
    rw [emptiedAll_cons]
    simp only [segmentsAt, label_emptied]
    split
    · exact segments_emptied outermost above before ns n
    · exact segmentsAt_emptiedAll field outermost above (n :: before) ns
end

def Unaffected {α : Type} (f : Node → α) : Prop :=
  ∀ outermost above before after (n : Node), f (n.emptied outermost above before after) = f n

theorem unaffected_label : Unaffected label := label_emptied

theorem unaffected_surface : Unaffected surface := by
  intro outermost above before after n
  have hc : (n.emptied outermost above before after).children.map label = n.children.map label := by
    obtain ⟨l, cs⟩ := n
    exact labels_emptiedAll _ _ _ [] cs
  simp only [surface, label_emptied, segments_emptied, hc]

theorem Unaffected.of_surface {α : Type} {f : Node → α}
    (h : ∀ n m : Node, n.surface = m.surface → f n = f m) : Unaffected f := by
  intro outermost above before after n
  exact h _ _ (unaffected_surface outermost above before after n)

section NotTest

variable {α : Type} {f : Node → α} (hf : Unaffected f)

include hf

/-- What emptying does not change of a node it does not change of a child either. -/
theorem find?_emptiedAll (q : Label → Bool) (outermost : Bool) (above : List Kind)
    (before ns : List Node) :
    ((emptiedAll false outermost above before ns).find? (q ·.label)).map f =
      (ns.find? (q ·.label)).map f := by
  induction ns generalizing before with
  | nil => rfl
  | cons n ns ih =>
    rw [emptiedAll_cons, List.find?_cons, List.find?_cons, label_emptied]
    cases q n.label with
    | true => exact congrArg some (hf outermost above before ns n)
    | false => exact ih (n :: before)

variable {outermost : Bool} {above : List Kind} {before : List Node} {n : Node}
  (after : List Node) (h : isTestItem outermost above before n = false)

include h

theorem child?_emptied (field : String) :
    ((n.emptied outermost above before after).child? field).map f = (n.child? field).map f := by
  unfold child?
  rw [children_emptied after h]
  exact find?_emptiedAll hf (·.field == some field) _ _ [] n.children

theorem firstNamed_emptied :
    (n.emptied outermost above before after).namedChildren.head?.map f =
      n.namedChildren.head?.map f := by
  unfold namedChildren
  rw [children_emptied after h, List.head?_filter, List.head?_filter]
  exact find?_emptiedAll hf (·.named) _ _ [] n.children

end NotTest

end Node

namespace Outline

theorem unaffected_referringFirst :
    Node.Unaffected fun path => referring path.firstSegment? path :=
  .of_surface fun _ _ h => referring_congr (Node.firstSegment?_congr h) (congrArg Prod.fst h)

theorem unaffected_referringLast : Node.Unaffected fun path => referring path.lastSegment? path :=
  .of_surface fun _ _ h => referring_congr (Node.lastSegment?_congr h) (congrArg Prod.fst h)

theorem unaffected_useRoot : Node.Unaffected useRoot := by
  intro outermost above before after tree
  simp only [useRoot, Node.kind_emptied, referringFirst_eq]
  split
  · exact unaffected_referringFirst outermost above before after tree
  · exact unaffected_referringFirst outermost above before after tree
  · rename_i hk
    have ht := Node.isTestItem_of_kind outermost above before hk rfl
    exact elim_congr (Node.child?_emptied unaffected_referringFirst after ht "path")
  · rename_i hk
    have ht := Node.isTestItem_of_kind outermost above before hk rfl
    exact elim_congr (Node.child?_emptied unaffected_referringFirst after ht "path")
  · rename_i hk
    have ht := Node.isTestItem_of_kind outermost above before hk rfl
    exact elim_congr (Node.firstNamed_emptied unaffected_referringFirst after ht)
  · rfl

/-- The names that a group brings beside those of its items. -/
theorem elim_declaringGroup_emptied {outermost : Bool} {above : List Kind} {before : List Node}
    {n : Node} (after : List Node) (ht : Node.isTestItem outermost above before n = false)
    (names : Outline) :
    (((n.emptied outermost above before after).child? "list").elim [] fun items =>
      (((n.emptied outermost above before after).child? "path").elim []
        fun path => declaringGroup path items) ++ names) =
      (n.child? "list").elim [] fun items =>
        ((n.child? "path").elim [] fun path => declaringGroup path items) ++ names := by
  have hpath : ∀ items,
      (((n.emptied outermost above before after).child? "path").elim []
        fun path => declaringGroup path items) =
      (n.child? "path").elim [] fun path => declaringGroup path items := by
    intro items
    have hf : Node.Unaffected fun path => declaringGroup path items :=
      .of_surface fun _ _ h => declaringGroup_congr h rfl
    exact elim_congr (Node.child?_emptied hf after ht "path")
  have hitems : Node.Unaffected fun items =>
      ((n.child? "path").elim [] fun path => declaringGroup path items) ++ names := by
    refine .of_surface fun _ _ h => ?_
    cases n.child? "path" with
    | none => rfl
    | some path => exact congrArg (· ++ names) (declaringGroup_congr rfl h)
  simp only [hpath]
  exact elim_congr (Node.child?_emptied hitems after ht "list")

/-- A use tree loses nothing itself, so its names hang on those of its children. -/
theorem useNames_emptied_of_children {outermost : Bool} {above : List Kind} {before : List Node}
    (after : List Node) {n : Node}
    (hat : ∀ inner,
      useNamesAt "list" (Node.emptiedAll false inner (n.kind :: above) [] n.children) =
        useNamesAt "list" n.children)
    (hof : ∀ inner,
      useNamesOf (Node.emptiedAll false inner (n.kind :: above) [] n.children) =
        useNamesOf n.children) :
    useNames (n.emptied outermost above before after) = useNames n := by
  rw [useNames_eq, useNames_eq n, Node.kind_emptied]
  split
  · exact readingOf_congr _ (congrArg some (Node.label_emptied outermost above before after n))
  · exact declaringLast_congr (Node.unaffected_surface outermost above before after n)
  · rename_i hk
    have ht := Node.isTestItem_of_kind outermost above before hk rfl
    have hpath := elim_congr (Node.child?_emptied unaffected_referringLast after ht "path")
    have halias := Node.child?_emptied Node.unaffected_label after ht "alias"
    rw [hpath]
    exact congrArg _ (readingOf_congr _ halias)
  · rename_i hk
    have ht := Node.isTestItem_of_kind outermost above before hk rfl
    rw [Node.children_emptied after ht, hat]
    exact elim_declaringGroup_emptied after ht _
  · rename_i hk
    have ht := Node.isTestItem_of_kind outermost above before hk rfl
    rw [Node.children_emptied after ht, hof]
  · rfl

mutual
/-- By induction on the use tree: no part of it is inside of a body. -/
theorem useNames_emptied (outermost : Bool) (above : List Kind) (before after : List Node) :
    ∀ n : Node, useNames (n.emptied outermost above before after) = useNames n
  | .mk l cs =>
    useNames_emptied_of_children after
      (fun inner => useNamesAt_emptiedAll "list" inner (l.kind :: above) [] cs)
      (fun inner => useNamesOf_emptiedAll inner (l.kind :: above) [] cs)
termination_by structural n => n

theorem useNamesOf_emptiedAll (outermost : Bool) (above : List Kind) (before : List Node) :
    ∀ ns : List Node, useNamesOf (Node.emptiedAll false outermost above before ns) = useNamesOf ns
  | [] => rfl
  | n :: ns => by
    rw [Node.emptiedAll_cons]
    simp only [useNamesOf, Node.named_emptied,
      useNames_emptied outermost above before ns n,
      useNamesOf_emptiedAll outermost above (n :: before) ns]
termination_by structural ns => ns

theorem useNamesAt_emptiedAll (field : String) (outermost : Bool) (above : List Kind)
    (before : List Node) : ∀ ns : List Node,
      useNamesAt field (Node.emptiedAll false outermost above before ns) = useNamesAt field ns
  | [] => rfl
  | n :: ns => by
    rw [Node.emptiedAll_cons]
    simp only [useNamesAt, Node.label_emptied, useNames_emptied outermost above before ns n,
      useNamesAt_emptiedAll field outermost above (n :: before) ns]
termination_by structural ns => ns
end

end Outline

namespace Attribute

variable (outermost : Bool) (above : List Kind) (before after : List Node) {a : Node}
  (h : a.kind = .attributeBody)

include h

theorem name_emptied : name (a.emptied outermost above before after) = name a := by
  have ht := Node.isTestItem_of_kind outermost above before h rfl
  rw [name_eq, name_eq a, Node.firstNamed_emptied Node.unaffected_label after ht]

theorem isCfgTest_emptied : isCfgTest (a.emptied outermost above before after) = isCfgTest a := by
  have ht := Node.isTestItem_of_kind outermost above before h rfl
  rw [isCfgTest_eq, isCfgTest_eq a, name_emptied outermost above before after h,
    Node.child?_emptied Node.unaffected_surface after ht]

end Attribute
end CrateUsage
