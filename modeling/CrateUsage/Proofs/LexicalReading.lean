import CrateUsage.Proofs.Lexical
import CrateUsage.Proofs.Rows

namespace CrateUsage

theorem Node.Legible.read_eq {n : Node} (h : n.Legible) : n.read = .ok n.word := by
  refine (answers_read n).eq_ok fun m hm ht => ?_
  rw [List.mem_singleton.mp hm] at ht
  exact h n n.self_mem_preorder ht

namespace Lexical

open Outline Step

theorem meaning_readingOf {n : Option Node} {say : String → Step}
    (h : ∀ m, n = some m → m.Legible) :
    meaningAll (readingOf n say) = n.elim .nothing fun m => (say m.word).meaning := by
  cases n with
  | none => rfl
  | some n =>
    simp only [readingOf, reading, (h n rfl).read_eq]
    exact meaningAll_singleton _

theorem meaning_declaring {n : Option Node} (h : ∀ m, n = some m → m.Legible) :
    meaningAll (declaring n) = bring n :=
  meaning_readingOf h

theorem meaning_referring {segment : Option Node} (at_ : Node)
    (h : ∀ m, segment = some m → m.Legible) :
    meaningAll (referring segment at_) = refer segment at_ :=
  meaning_readingOf h

theorem meaning_referringFirst {path : Option Node} (h : ∀ m, path = some m → m.Legible) :
    meaningAll (referringFirst path) =
      path.elim .nothing fun path => refer path.firstSegment? path := by
  cases path with
  | none => rfl
  | some path => exact meaning_referring path fun m hm => (h path rfl).firstSegment? hm

theorem useRoot_eq_referringFirst (tree : Node) :
    Outline.useRoot tree = referringFirst (usePath? tree) := by
  unfold Outline.useRoot usePath?
  cases tree.kind <;> rfl

theorem legible_usePath? {tree path : Node} (h : tree.Legible) (hp : usePath? tree = some path) :
    path.Legible := by
  unfold usePath? at hp
  split at hp
  · exact Option.some.inj hp ▸ h
  · exact Option.some.inj hp ▸ h
  · exact h.child? hp
  · exact h.child? hp
  · exact h.child (Node.mem_children_of_namedChildren (List.mem_of_head? hp))
  · cases hp

theorem meaning_useRoot {tree : Node} (h : tree.Legible) :
    meaningAll (Outline.useRoot tree) = useRoot tree := by
  rw [useRoot_eq_referringFirst]
  exact meaning_referringFirst fun path hp => legible_usePath? h hp

theorem meaning_declaringLast {path : Node} (h : path.Legible) :
    meaningAll (declaringLast path) = usePath path := by
  unfold declaringLast usePath
  split
  · rename_i hs
    rw [hs]
    rfl
  · rename_i segment hs
    rw [hs, Node.Legible.read_eq (h.lastSegment? hs)]
    simp only [Option.elim_some]
    split
    · rfl
    · exact meaningAll_singleton _

theorem meaning_declaringGroup {path : Node} (items : Node) (h : path.Legible) :
    meaningAll (declaringGroup path items) =
      if items.namedChildren.any (·.kind = .selfWord) then bring path.lastSegment?
      else .nothing := by
  unfold declaringGroup
  split
  · exact meaning_declaring fun m hm => h.lastSegment? hm
  · rfl

/-- The children that a use tree reads are those that its meaning is built from. -/
theorem meaning_useTree {n : Node} {parts : List Part} (h : n.Legible)
    (hl : meaningAll (useNamesAt "list" n.children) = inField parts "list" Part.asUse)
    (hs : meaningAll (useNamesOf n.children) = named parts Part.asUse) :
    meaningAll (useNames n) = useTree n parts := by
  obtain ⟨l, cs⟩ := n
  simp only [useNames, useTree, Node.kind, Node.label_mk]
  cases l.kind
  case identifier => exact meaning_declaring fun m hm => Option.some.inj hm ▸ h
  case scopedIdentifier => exact meaning_declaringLast h
  case useAsClause =>
    rw [meaningAll_append, meaning_declaring fun m hm => h.child? hm]
    congr 1
    cases hp : (Node.mk l cs).child? "path" with
    | none => rfl
    | some path => exact meaning_referring path fun m hm => (h.child? hp).lastSegment? hm
  case scopedUseList =>
    rw [← hl]
    unfold useSelf
    cases hi : (Node.mk l cs).child? "list" with
    | none =>
      rw [useNamesAt_children, hi]
      cases (Node.mk l cs).child? "path" <;> exact (Meaning.nothing_andThen _).symm
    | some items =>
      cases hp : (Node.mk l cs).child? "path" with
      | none => exact (Meaning.nothing_andThen _).symm
      | some path =>
        simp only [meaningAll_append, meaning_declaringGroup items (h.child? hp), Node.children_mk]
  case useList => exact hs
  all_goals rfl

mutual
/-- By induction on the tree: a use tree means the same wherever it stands. -/
theorem meaning_useNames (above : List Kind) (held : List (Node × Meaning)) (after : List Node) :
    ∀ n : Node, n.Legible → meaningAll (useNames n) = (partOf above held after n).asUse
  | .mk l cs, h => by
    have hc : ∀ c ∈ cs, c.Legible := fun c hc => h.child hc
    obtain ⟨hl, hs⟩ := meaning_useNamesAll (l.kind :: above) [] cs hc
    exact meaning_useTree h (hl "list") hs

theorem meaning_useNamesAll (above : List Kind) (held : List (Node × Meaning)) :
    ∀ ns : List Node, (∀ n ∈ ns, n.Legible) →
      (∀ field, meaningAll (useNamesAt field ns) =
        inField (partsOf above held ns) field Part.asUse) ∧
      meaningAll (useNamesOf ns) = named (partsOf above held ns) Part.asUse
  | [], _ => ⟨fun _ => rfl, rfl⟩
  | n :: ns, h => by
    have hn := meaning_useNames above held ns n (h n List.mem_cons_self)
    obtain ⟨hl, hs⟩ := meaning_useNamesAll above (heldAfter held (partOf above held ns n)) ns
      fun m hm => h m (List.mem_cons_of_mem _ hm)
    simp only [partsOf, inField_cons, named_cons, node_partOf, useNamesAt, useNamesOf,
      meaningAll_append]
    refine ⟨fun field => ?_, ?_⟩
    · rw [← hn, ← hl field]
      split <;> rfl
    · rw [← hn, ← hs]
      cases hm : n.named with
      | true => rfl
      | false => exact Meaning.nothing_andThen _
end

theorem inField_partsOf {above : List Kind} {name : String} {read : Part → Meaning}
    {say : Node → Meaning} : ∀ {held : List (Node × Meaning)} {ns : List Node},
    (∀ n ∈ ns, ∀ held after, read (partOf above held after n) = say n) →
      inField (partsOf above held ns) name read =
        (ns.find? (·.label.field == some name)).elim .nothing say
  | _, [], _ => rfl
  | held, n :: ns, h => by
    rw [partsOf, inField_cons, node_partOf, List.find?_cons, h n List.mem_cons_self,
      inField_partsOf fun m hm => h m (List.mem_cons_of_mem _ hm)]
    cases n.label.field == some name <;> rfl

def heldAt (p : Place) : List (Node × Meaning) := p.attributes.map fun a => (a.1, meaningAll a.2)

abbrev LegiblePlace (p : Place) : Prop := p.Explained fun _ => False

theorem markers_eq {p : Place} (h : LegiblePlace p) :
    markers p = .ok (Markers.told ((heldAt p).map (·.1))) := by
  have hn : (heldAt p).map (·.1) = p.attributes.map (·.1) := by
    simp [heldAt, Function.comp_def]
  rw [hn]
  rcases answers_markers (p.attributes.map (·.1)) with ha | ⟨m, -, -, he⟩
  · exact ha
  · exact (h.markers he).elim

theorem meaning_flatMap {α : Type} (as : List α) (say : α → Outline) :
    meaningAll (as.flatMap say) = .all (as.map fun a => meaningAll (say a)) := by
  induction as with
  | nil => rfl
  | cons a as ih =>
    rw [List.flatMap_cons, meaningAll_append, ih]
    rfl

theorem meaning_body {p : Place} {inner : Outline} {parts : List Part}
    (h : meaningAll inner = named parts Part.alone) :
    meaningAll (attributesSay p ++ inner) = body (heldAt p) parts := by
  rw [meaningAll_append, h, attributesSay, meaning_flatMap]
  simp only [body, heldAt, List.map_map, Function.comp_def]

def ofChoice (parts : List Part) : Choice → Meaning
  | .every => named parts Part.alone
  | .first => firstNamed parts
  | .field name => inField parts name Part.alone
  | .pathField name => inField parts name Part.asPath

theorem meaning_pathHead {path : Node} (h : path.Legible) :
    meaningAll (pathHead path.segments) =
      match path.segments with
      | first :: _ :: _ => refer (some first) first
      | _ => .nothing := by
  rcases hs : path.segments with _ | ⟨first, _ | ⟨second, others⟩⟩
  · rfl
  · rfl
  · have hm : first ∈ path.preorder :=
      Node.mem_preorder_of_segments path (hs ▸ List.mem_cons_self)
    exact meaning_referring first fun m he => Option.some.inj he ▸ Node.Accounts.mem h hm

theorem name_readable {name : Option Node} (h : ∀ m, name = some m → m.Legible) :
    (name.map Node.read).bind Except.toOption = name.map Node.word := by
  cases name with
  | none => rfl
  | some n => simp [Node.Legible.read_eq (h n rfl), Except.toOption]

/-- Only `every` reads on behind the first part that is read. -/
theorem ofChoice_cons {choice : Choice} (h : choice ≠ .every) (part : Part) (parts : List Part) :
    ofChoice (part :: parts) choice =
      if choice.takes part.node.label then if choice.asPath then part.asPath else part.alone
      else ofChoice parts choice := by
  cases choice with
  | every => exact absurd rfl h
  | first => exact firstNamed_cons part parts
  | field name => exact inField_cons part parts name Part.alone
  | pathField name => exact inField_cons part parts name Part.asPath

theorem inField_argument (above : List Kind) {n : Node} (h : n.Legible) :
    inField (partsOf above [] n.children) "argument"
        (fun tree => (useRoot tree.node).andThen tree.asUse) =
      (n.child? "argument").elim .nothing fun tree =>
        meaningAll (Outline.useRoot tree ++ useNames tree) := by
  refine inField_partsOf fun tree ht held after => ?_
  have hl : tree.Legible := h.child ht
  rw [node_partOf, meaningAll_append, meaning_useRoot hl, meaning_useNames above held after tree hl]

/-- What a construct says on its own is what its parts come to, where they are read right. -/
theorem meaning_alone {p : Place} {after : List Node} {n : Node} {parts : List Part}
    (hn : n.Legible) (hp : LegiblePlace p)
    (hc : ∀ choice, meaningAll (ofChildren choice (p.below n.kind) n.children) =
      ofChoice parts choice)
    (hu : inField parts "argument" (fun tree => (useRoot tree.node).andThen tree.asUse) =
      (n.child? "argument").elim .nothing fun tree =>
        meaningAll (Outline.useRoot tree ++ useNames tree)) :
    meaningAll (ofNode false p after n) = alone p.above (heldAt p) after n parts := by
  rw [ofNode_eq]
  unfold alone
  generalize n.kind = kind at hc ⊢
  cases kind
  case useDeclaration =>
    dsimp only
    rw [hu]
    cases n.child? "argument" <;> rfl
  case externCrateDeclaration =>
    cases hm : n.child? "name" with
    | none => rfl
    | some name => exact meaning_referring name fun m hs => Option.some.inj hs ▸ hn.child? hm
  case scopedIdentifier | scopedTypeIdentifier =>
    dsimp only
    rw [meaningAll_append, meaning_pathHead hn, hc]
    rfl
  case attributeBody => exact hc .first
  case attributeItem =>
    dsimp only
    split
    · rfl
    · exact hc .every
  case block =>
    exact (meaningAll_singleton _).trans (congrArg (Meaning.enclosed false) (hc .every))
  case modItem =>
    simp only [markers_eq hp]
    rw [meaningAll_append, meaningAll_singleton, Step.meaning, meaning_body (hc .every),
      meaning_declaring fun m hm => hn.child? hm]
  case functionItem =>
    dsimp only
    split
    · rw [markers_eq hp, meaningAll_singleton, Step.meaning, meaning_body (hc .every),
        name_readable fun m hm => hn.child? hm]
      rfl
    · exact hc .every
  all_goals exact hc .every

theorem meaning_asPath {p : Place} {after : List Node} {n : Node} {parts : List Part}
    {itself : Meaning} (hi : meaningAll (ofNode false p after n) = itself)
    (hc : ∀ choice, meaningAll (ofChildren choice (p.below n.kind) n.children) =
      ofChoice parts choice) :
    meaningAll (ofNode true p after n) = asPath n parts itself := by
  rw [ofNode_asPath]
  unfold asPath
  split
  · rfl
  · split
    · exact hc (.pathField "path")
    · split
      · rw [meaningAll_append, hc, hc]
        rfl
      · exact hi

theorem heldAt_behind {p : Place} {n : Node} (after : List Node)
    (h : (ofAttributes p.above n.children).map (fun a => (a.1, meaningAll a.2)) =
      attributesOf (partsOf (.attributeItem :: p.above) [] n.children)) :
    heldAt (p.behind n) = heldAfter (heldAt p) (partOf p.above (heldAt p) after n) := by
  unfold Place.behind heldAfter
  rw [node_partOf, attributes_partOf]
  split
  · rfl
  · split
    · rename_i hk
      rw [hk, ← h]
      simp [heldAt]
    · rfl

theorem attributesOf_cons (part : Part) (parts : List Part) :
    attributesOf (part :: parts) =
      (if part.node.named && part.node.kind = .attributeBody then [(part.node, part.alone)]
      else []) ++ attributesOf parts := by
  unfold attributesOf
  rw [List.filter_cons]
  split <;> rfl

theorem alone_partOf_attribute {above : List Kind} {held : List (Node × Meaning)}
    {after : List Node} {n : Node} (h : n.kind = .attributeBody) :
    (partOf above held after n).alone = firstNamed (partsOf (n.kind :: above) [] n.children) := by
  obtain ⟨l, cs⟩ := n
  have hl : l.kind = .attributeBody := h
  simp only [partOf, Part.ofParts, alone, h, hl, Node.children_mk]

mutual
/-- By induction on the tree, together for a node, a row of children and a row of attributes: the
outline of a tree means what its parts come to. -/
theorem meaning_ofNode (p : Place) (after : List Node) : ∀ n : Node, n.Legible → LegiblePlace p →
    meaningAll (ofNode false p after n) = (partOf p.above (heldAt p) after n).alone ∧
      meaningAll (ofNode true p after n) = (partOf p.above (heldAt p) after n).asPath
  | .mk l cs, h, hp => by
    have hcs : ∀ c ∈ cs, c.Legible := fun c hc => h.child hc
    have hc := meaning_ofChildren (p.below l.kind) cs hcs (p.explained_below _)
    have ha : meaningAll (ofNode false p after (.mk l cs)) =
        (partOf p.above (heldAt p) after (.mk l cs)).alone :=
      meaning_alone h hp hc (inField_argument (l.kind :: p.above) h)
    exact ⟨ha, meaning_asPath ha hc⟩

theorem meaning_ofChildren (p : Place) : ∀ ns : List Node, (∀ n ∈ ns, n.Legible) →
    LegiblePlace p → ∀ choice,
      meaningAll (ofChildren choice p ns) = ofChoice (partsOf p.above (heldAt p) ns) choice
  | [], _, _, choice => by cases choice <;> rfl
  | .mk l cs :: after, h, hp, choice => by
    have hn := h (.mk l cs) List.mem_cons_self
    have hcs : ∀ c ∈ cs, c.Legible := fun c hc => hn.child hc
    obtain ⟨halone, hpath⟩ := meaning_ofNode p after (.mk l cs) hn hp
    have hbehind : LegiblePlace (p.behind (.mk l cs)) :=
      hp.behind (explained_ofAttributes p.above cs hcs)
    have hheld := heldAt_behind (n := .mk l cs) after (meaning_ofAttributes p.above cs hcs [])
    have hrest := meaning_ofChildren (p.behind (.mk l cs)) after
      (fun n hm => h n (List.mem_cons_of_mem _ hm)) hbehind
    rw [Place.above_behind, hheld] at hrest
    rw [partsOf]
    by_cases he : choice = .every
    · subst he
      rw [ofChildren_every_cons, meaningAll_append, hrest]
      simp only [ofChoice, named_cons, node_partOf]
      split
      · rw [halone]
      · exact Meaning.nothing_andThen _
    · rw [ofChildren_cons he, ofChoice_cons he, node_partOf, ← hrest]
      split
      · cases choice.asPath with
        | true => exact hpath
        | false => exact halone
      · rfl

theorem meaning_ofAttributes (above : List Kind) : ∀ ns : List Node, (∀ n ∈ ns, n.Legible) →
    ∀ held, (ofAttributes above ns).map (fun a => (a.1, meaningAll a.2)) =
      attributesOf (partsOf (.attributeItem :: above) held ns)
  | [], _, _ => rfl
  | .mk l cs :: after, h, held => by
    have hn := h (.mk l cs) List.mem_cons_self
    rw [ofAttributes_cons, partsOf, attributesOf_cons, node_partOf, List.map_append,
      meaning_ofAttributes above after fun n hm => h n (List.mem_cons_of_mem _ hm)]
    congr 1
    split
    · have hfirst := meaning_ofChildren ⟨l.kind :: .attributeItem :: above, []⟩ cs
        (fun c hc => hn.child hc) (by intro a ha; cases ha) .first
      rename_i hk
      obtain ⟨-, hk⟩ := Bool.and_eq_true_iff.mp hk
      rw [alone_partOf_attribute (of_decide_eq_true hk)]
      exact congrArg (fun meaning => [(Node.mk l cs, meaning)]) hfirst
    · rfl
end

/-- The outline of a whole tree means what the tree comes to. -/
theorem meaning_outline {root : Node} (h : root.Legible) :
    meaningAll root.outline {} [] = root.reading := by
  have hp : LegiblePlace {} := fun a ha => by cases ha
  obtain ⟨halone, -⟩ := meaning_ofNode {} [] root h hp
  exact congrFun (congrFun halone {}) []

end Lexical

/-- A tree whose nodes all have a text is read to its end, and what is found is what an
interpreter finds that knows no stack: it copies the visible names for each scope and takes each
reference where it stands. -/
theorem Node.discover_eq_reading (root : Node) (h : ∀ m ∈ root.preorder, m.text.isSome = true) :
    ∃ d, root.discover = .ok d ∧
      d.records = firstSightings root.reading.emitted ∧
      (∀ name, name ∈ d.normal ↔
        ∃ r ∈ root.reading.emitted, r.build = .normal ∧ r.name = name) ∧
      (∀ name, name ∈ d.testOnly ↔
        ∃ r ∈ root.reading.emitted, r.build = .testOnly ∧ r.name = name) ∧
      d.normal.Nodup ∧ d.testOnly.Nodup ∧ d.hints = root.reading.hints := by
  have hl := legible_of_isSome h
  obtain ⟨t, hd, hledger, hhints⟩ := discover_of_outline hl
  rw [Lexical.meaning_outline hl] at hledger hhints
  have hnames : ∀ build, t.ledger.names build =
      (({} : Ledger).enterAll root.reading.emitted).names build := by
    intro build
    rw [hledger]
  refine ⟨_, hd, ?_, fun name => ?_, fun name => ?_, ?_, ?_, hhints⟩
  · change t.ledger.records = _
    rw [hledger, Ledger.records_enterAll_empty]
  · change name ∈ t.ledger.names .normal ↔ _
    rw [hnames, Ledger.mem_names_enterAll_empty]
  · change name ∈ t.ledger.names .testOnly ↔ _
    rw [hnames, Ledger.mem_names_enterAll_empty]
  · change (t.ledger.names .normal).Nodup
    rw [hnames]
    exact Ledger.nodup_enterAll_empty _ _
  · change (t.ledger.names .testOnly).Nodup
    rw [hnames]
    exact Ledger.nodup_enterAll_empty _ _

/-- Neither the name that a `use` brought nor the name of the module is a crate. -/
theorem Node.discover_tests :
    let root := worded .sourceFile none ""
      (worded .useDeclaration none "" [twoSegments (some "argument") "rand" "serde"] ::
        testModule [twoSegments none "regex" "Regex", twoSegments none "serde" "de",
          twoSegments none "tests" "all"])
    (∀ m ∈ root.preorder, m.text.isSome = true) ∧ ∃ d, root.discover = .ok d ∧
      d.records = [⟨"rand", .normal, some 1⟩, ⟨"regex", .testOnly, some 1⟩] := by
  intro root
  have ht : ∀ m ∈ root.preorder, m.text.isSome = true := by decide
  obtain ⟨d, hd, hr, -⟩ := discover_eq_reading root ht
  exact ⟨ht, d, hd, hr.trans (by decide)⟩

end CrateUsage
