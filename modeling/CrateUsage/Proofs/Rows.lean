import CrateUsage.Outline

namespace CrateUsage

namespace Node

theorem decorated?_cons (n : Node) (ns : List Node) :
    decorated? (n :: ns) = if n.named && !n.isDecoration then some n else decorated? ns := by
  unfold decorated?
  rw [List.filter_cons]
  cases n.named with
  | false => rfl
  | true =>
    rw [if_pos rfl, List.find?_cons]
    cases n.isDecoration <;> rfl

/-- Whether attributes are read by the next item, which is in the scope of the given kinds. -/
def isOwned (above : List Kind) (after : List Node) : Bool :=
  (decorated? after).any (·.ownsAttributes above)

end Node

namespace Outline

/-- The place behind a node in its row. Unnamed nodes and comments part no attribute from its item,
and of several attributes in one attribute item the last stands nearest. -/
def Place.behind (p : Place) (n : Node) : Place :=
  if !n.named || n.kind.isComment then p
  else if n.kind = .attributeItem then
    { p with attributes := p.attributes ++ (ofAttributes p.above n.children).reverse }
  else { p with attributes := [] }

theorem Place.above_behind (p : Place) (n : Node) : (p.behind n).above = p.above := by
  unfold behind
  split
  · rfl
  · split <;> rfl

theorem ofChildren_every_cons (p : Place) (n : Node) (after : List Node) :
    ofChildren .every p (n :: after) =
      (if n.named then ofNode false p after n else []) ++
        ofChildren .every (p.behind n) after := by
  cases n
  rfl

/-- Only `every` reads on behind the first child that is read. -/
theorem ofChildren_cons {choice : Choice} (h : choice ≠ .every) (p : Place) (n : Node)
    (after : List Node) :
    ofChildren choice p (n :: after) =
      if choice.takes n.label then ofNode choice.asPath p after n
      else ofChildren choice (p.behind n) after := by
  obtain ⟨l, cs⟩ := n
  cases ht : choice.takes l with
  | true =>
    cases choice with
    | every => exact absurd rfl h
    | first | field _ | pathField _ => simp only [ofChildren, Node.label_mk, ht, if_true]
  | false =>
    cases choice with
    | every => exact absurd rfl h
    | first | field _ | pathField _ =>
      simp only [ofChildren, Node.label_mk, ht, Bool.false_eq_true, if_false]
      rfl

theorem ofAttributes_cons (above : List Kind) (n : Node) (after : List Node) :
    ofAttributes above (n :: after) =
      (if n.named && n.kind = .attributeBody then
        [(n, ofChildren .first ⟨n.kind :: .attributeItem :: above, []⟩ n.children)]
      else []) ++ ofAttributes above after := by
  cases n
  rfl

theorem nodes_ofAttributes (above : List Kind) (ns : List Node) :
    (ofAttributes above ns).map (·.1) =
      (ns.filter Node.named).filter (·.kind = .attributeBody) := by
  induction ns with
  | nil => rfl
  | cons n ns ih =>
    rw [ofAttributes_cons, List.map_append, ih, List.filter_filter, List.filter_filter,
      List.filter_cons]
    cases hn : n.named with
    | false => simp
    | true =>
      by_cases hk : n.kind = .attributeBody
      · simp [hk]
      · simp [hk]

/-- The attributes behind a node are those before it and those that it holds, unless it is an
item. -/
theorem outerAttributes_cons (n : Node) (before : List Node) :
    Node.outerAttributes (n :: before) =
      if !n.named || n.kind.isComment then Node.outerAttributes before
      else if n.kind = .attributeItem then Node.outerAttributes before ++ n.attributesHeld
      else [] := by
  unfold Node.outerAttributes
  rw [List.filter_cons]
  cases hn : n.named with
  | false => rfl
  | true =>
    simp only [if_true, Bool.not_true, Bool.false_or, List.takeWhile_cons]
    by_cases hk : n.kind = .attributeItem
    · simp [Node.isDecoration, hk, Kind.isComment]
    · cases hc : n.kind.isComment <;> simp [Node.isDecoration, Node.attributesHeld, hk, hc]

/-- A place holds the attributes that stand before it. -/
theorem Place.nodes_behind {p : Place} {before : List Node} (n : Node)
    (h : p.attributes.map (·.1) = Node.outerAttributes before) :
    (p.behind n).attributes.map (·.1) = Node.outerAttributes (n :: before) := by
  rw [outerAttributes_cons]
  unfold Place.behind
  split
  · exact h
  · split
    · rename_i hk
      simp only [List.map_append, List.map_reverse, nodes_ofAttributes, h, Node.attributesHeld,
        Node.namedChildren, hk, if_true]
    · rfl

theorem useNamesOf_eq (ns : List Node) :
    useNamesOf ns = (ns.filter Node.named).flatMap useNames := by
  induction ns with
  | nil => rfl
  | cons n ns ih =>
    rw [useNamesOf, ih, List.filter_cons]
    cases n.named <;> rfl

theorem useNamesAt_children (field : String) (n : Node) :
    useNamesAt field n.children = (n.child? field).elim [] useNames := by
  unfold Node.child?
  induction n.children with
  | nil => rfl
  | cons m ns ih =>
    rw [useNamesAt, List.find?_cons, ih]
    cases m.label.field == some field <;> rfl

def pathHead : List Node → Outline
  | first :: _ :: _ => referring (some first) first
  | _ => []

theorem ofNode_eq (p : Place) (after : List Node) (n : Node) :
    ofNode false p after n =
      match n.kind with
      | .useDeclaration => (n.child? "argument").elim [] fun tree => useRoot tree ++ useNames tree
      | .externCrateDeclaration => (n.child? "name").elim [] fun name => referring (some name) name
      | .scopedIdentifier | .scopedTypeIdentifier =>
        pathHead n.segments ++ ofChildren (.pathField "path") (p.below n.kind) n.children
      | .attributeBody => ofChildren .first (p.below n.kind) n.children
      | .attributeItem =>
        if (Node.decorated? after).any (·.ownsAttributes p.above) then []
        else ofChildren .every (p.below n.kind) n.children
      | .block => [.scope false (ofChildren .every (p.below n.kind) n.children)]
      | .modItem =>
        match markers p with
        | .error kind => [.unreadable kind]
        | .ok m =>
          declaring (n.child? "name") ++
            [.scope m.isCfgTest (attributesSay p ++ ofChildren .every (p.below n.kind) n.children)]
      | .functionItem =>
        if Node.isFree p.above then
          [.function ((n.child? "name").map Node.read) (markers p)
            (attributesSay p ++ ofChildren .every (p.below n.kind) n.children)]
        else ofChildren .every (p.below n.kind) n.children
      | _ => ofChildren .every (p.below n.kind) n.children := by
  obtain ⟨l, cs⟩ := n
  simp only [ofNode, Node.kind, Node.label_mk, Node.children_mk, Bool.false_and,
    Bool.false_eq_true, if_false]
  generalize l.kind = kind
  cases kind
  case useDeclaration => cases (Node.mk l cs).child? "argument" <;> rfl
  case externCrateDeclaration => cases (Node.mk l cs).child? "name" <;> rfl
  case scopedIdentifier | scopedTypeIdentifier =>
    rcases (Node.mk l cs).segments with _ | ⟨first, _ | ⟨second, others⟩⟩ <;> rfl
  all_goals rfl

theorem useNames_comment {n : Node} (hk : n.kind.isComment = true) : useNames n = [] := by
  obtain ⟨l, cs⟩ := n
  have hk : l.kind.isComment = true := hk
  cases h : l.kind <;> simp_all [Kind.isComment, useNames]

/-- A comment without parts says nothing. -/
theorem ofNode_comment {n : Node} (hk : n.kind.isComment = true) (hc : n.children = [])
    (p : Place) (after : List Node) : ofNode false p after n = [] := by
  rw [ofNode_eq, hc]
  cases h : n.kind <;> simp_all [Kind.isComment] <;> rfl

/-- As a part of a path a node says nothing of its segments. -/
theorem ofNode_asPath (p : Place) (after : List Node) (n : Node) :
    ofNode true p after n =
      if n.kind.isSegment then []
      else if n.kind.isScopedPath then ofChildren (.pathField "path") (p.below n.kind) n.children
      else if n.kind = .genericType then
        ofChildren (.pathField "type") (p.below n.kind) n.children
          ++ ofChildren (.field "type_arguments") (p.below n.kind) n.children
      else ofNode false p after n := by
  obtain ⟨l, cs⟩ := n
  simp only [ofNode, Node.kind, Node.label_mk, Node.children_mk, Bool.true_and, Bool.false_and,
    Bool.false_eq_true, if_false]
  generalize l.kind = kind
  cases kind <;> rfl

end Outline
end CrateUsage
