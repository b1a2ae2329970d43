import CrateUsage.Proofs.Rows
import Mathlib.Data.List.Forall2

namespace CrateUsage.Outline

def Place.past (p : Place) (n : Node) (held : List (Node × Outline)) : Place :=
  if !n.named || n.kind.isComment then p
  else if n.kind = .attributeItem then { p with attributes := p.attributes ++ held.reverse }
  else { p with attributes := [] }

theorem Place.behind_eq_past (p : Place) (n : Node) :
    p.behind n = p.past n (ofAttributes p.above n.children) := rfl

/-- What a node says, given what a use tree says and what each choice of its children says. -/
def saying (uses : Node → Outline) (asPath : Bool) (p : Place) (after : List Node) (n : Node)
    (children : Choice → Outline) : Outline :=
  if asPath && n.kind.isSegment then []
  else if asPath && n.kind.isScopedPath then children (.pathField "path")
  else if asPath && n.kind = .genericType then
    children (.pathField "type") ++ children (.field "type_arguments")
  else
    match n.kind with
    | .useDeclaration => (n.child? "argument").elim [] uses
    | .externCrateDeclaration => (n.child? "name").elim [] fun name => referring (some name) name
    | .scopedIdentifier | .scopedTypeIdentifier =>
      pathHead n.segments ++ children (.pathField "path")
    | .attributeBody => children .first
    | .attributeItem =>
      if (Node.decorated? after).any (·.ownsAttributes p.above) then [] else children .every
    | .block => [.scope false (children .every)]
    | .modItem =>
      match markers p with
      | .error kind => [.unreadable kind]
      | .ok m =>
        declaring (n.child? "name") ++ [.scope m.isCfgTest (attributesSay p ++ children .every)]
    | .functionItem =>
      if Node.isFree p.above then
        [.function ((n.child? "name").map Node.read) (markers p)
          (attributesSay p ++ children .every)]
      else children .every
    | _ => children .every

def sayingUse (tree : Node) : Outline := useRoot tree ++ useNames tree

theorem ofNode_eq_saying (asPath : Bool) (p : Place) (after : List Node) (n : Node) :
    ofNode asPath p after n =
      saying sayingUse asPath p after n fun choice =>
        ofChildren choice (p.below n.kind) n.children := by
  unfold saying
  cases asPath with
  | false =>
    rw [ofNode_eq]
    rfl
  | true =>
    rw [ofNode_asPath, ofNode_eq]
    simp only [Bool.true_and, decide_eq_true_iff]
    rfl

mutual
/-- The reader with another reading of use trees. All else is read as before. -/
def ofNodeBy (uses : Node → Outline) (asPath : Bool) (p : Place) (after : List Node) :
    Node → Outline
  | .mk l cs =>
    saying uses asPath p after (.mk l cs) fun choice => ofChildrenBy uses choice (p.below l.kind) cs

def ofChildrenBy (uses : Node → Outline) (choice : Choice) (p : Place) : List Node → Outline
  | [] => []
  | .mk l cs :: after =>
    let said := if choice.takes l then ofNodeBy uses choice.asPath p after (.mk l cs) else []
    let rest := ofChildrenBy uses choice (p.past (.mk l cs) (ofAttributesBy uses p.above cs)) after
    match choice with
    | .every => said ++ rest
    | _ => if choice.takes l then said else rest

def ofAttributesBy (uses : Node → Outline) (above : List Kind) : List Node → List (Node × Outline)
  | [] => []
  | .mk l cs :: after =>
    (if l.named && l.kind = .attributeBody then
      [(.mk l cs, ofChildrenBy uses .first ⟨l.kind :: .attributeItem :: above, []⟩ cs)]
    else [])
      ++ ofAttributesBy uses above after
end

structure Compatible (R : Outline → Outline → Prop) : Prop where
  refl : ∀ o, R o o
  append : ∀ {a b c d}, R a b → R c d → R (a ++ c) (b ++ d)
  scope : ∀ {a b} (marked : Bool), R a b → R [.scope marked a] [.scope marked b]
  function : ∀ {a b} (name : Option (Except Kind String)) (markers : Except Kind Markers),
    R a b → R [.function name markers a] [.function name markers b]

theorem compatible_eq : Compatible (· = ·) where
  refl _ := rfl
  append h g := by rw [h, g]
  scope _ h := by rw [h]
  function _ _ h := by rw [h]

section Related

variable {R : Outline → Outline → Prop}

def AttributesRelated (R : Outline → Outline → Prop) :
    List (Node × Outline) → List (Node × Outline) → Prop :=
  List.Forall₂ fun a b => a.1 = b.1 ∧ R a.2 b.2

structure PlaceRelated (R : Outline → Outline → Prop) (p q : Place) : Prop where
  above : p.above = q.above
  attributes : AttributesRelated R p.attributes q.attributes

theorem placeRelated_nil (above : List Kind) :
    PlaceRelated R { above } { above } := ⟨rfl, .nil⟩

theorem PlaceRelated.below {p q : Place} (h : PlaceRelated R p q) (kind : Kind) :
    PlaceRelated R (p.below kind) (q.below kind) where
  above := by simp only [Place.below, h.above]
  attributes := .nil

theorem PlaceRelated.past {p q : Place} (h : PlaceRelated R p q) (n : Node)
    {held others : List (Node × Outline)} (ha : AttributesRelated R held others) :
    PlaceRelated R (p.past n held) (q.past n others) := by
  unfold Place.past
  split
  · exact h
  · split
    · exact ⟨h.above, List.rel_append h.attributes (List.rel_reverse ha)⟩
    · exact ⟨h.above, .nil⟩

theorem PlaceRelated.markers {p q : Place} (h : PlaceRelated R p q) : markers p = markers q := by
  have hnodes : p.attributes.map (·.1) = q.attributes.map (·.1) := by
    rw [← List.forall₂_eq_eq_eq, List.forall₂_map_left_iff, List.forall₂_map_right_iff]
    exact h.attributes.imp fun _ _ => And.left
  simp only [Outline.markers, hnodes]

variable (hR : Compatible R)

include hR

theorem Compatible.flatMap {as bs : List (Node × Outline)} (h : AttributesRelated R as bs) :
    R (as.flatMap (·.2)) (bs.flatMap (·.2)) := by
  induction h with
  | nil => exact hR.refl []
  | cons hab _ ih => exact hR.append hab.2 ih

variable {uses others : Node → Outline} (hu : ∀ tree, R (uses tree) (others tree))

include hu

/-- By cases on the construct: a node says related things where its use tree and its children do. -/
theorem Compatible.saying {p q : Place} (h : PlaceRelated R p q) (asPath : Bool)
    (after : List Node) (n : Node) {children more : Choice → Outline}
    (hc : ∀ choice, R (children choice) (more choice)) :
    R (saying uses asPath p after n children) (Outline.saying others asPath q after n more) := by
  have hbody := hR.append (hR.flatMap h.attributes) (hc .every)
  unfold Outline.saying
  rw [h.above, h.markers]
  split
  · exact hR.refl []
  split
  · exact hc _
  split
  · exact hR.append (hc _) (hc _)
  split
  · cases n.child? "argument" with
    | none => exact hR.refl []
    | some tree => exact hu tree
  · exact hR.refl _
  · exact hR.append (hR.refl _) (hc _)
  · exact hR.append (hR.refl _) (hc _)
  · exact hc .first
  · split
    · exact hR.refl []
    · exact hc .every
  · exact hR.scope false (hc .every)
  · split
    · exact hR.refl _
    · exact hR.append (hR.refl _) (hR.scope _ hbody)
  · split
    · exact hR.function _ _ hbody
    · exact hc .every
  · exact hc .every

omit hu in
/-- One child before the rest of its row. -/
theorem Compatible.row {choice : Choice} {takes : Bool} {a b rest more : Outline} (ha : R a b)
    (hs : R rest more) :
    R (match choice with
        | .every => (if takes then a else []) ++ rest
        | _ => if takes then if takes then a else [] else rest)
      (match choice with
        | .every => (if takes then b else []) ++ more
        | _ => if takes then if takes then b else [] else more) := by
  have hsaid : R (if takes then a else []) (if takes then b else []) := by
    split
    · exact ha
    · exact hR.refl []
  cases choice with
  | every => exact hR.append hsaid hs
  | first | field _ | pathField _ =>
    dsimp only
    split
    · rename_i ht
      simpa only [ht, if_true] using hsaid
    · exact hs

end Related

mutual
/-- By induction on the tree, together for a node, a row of children and a row of attributes: if two
readings of use trees are related, then so is all that the two readers read. -/
theorem related_ofNode {R : Outline → Outline → Prop} (hR : Compatible R) {uses : Node → Outline}
    (hu : ∀ tree, R (sayingUse tree) (uses tree)) (asPath : Bool) {p q : Place}
    (h : PlaceRelated R p q) (after : List Node) : ∀ n : Node,
      R (ofNode asPath p after n) (ofNodeBy uses asPath q after n)
  | .mk l cs => by
    rw [ofNode_eq_saying, ofNodeBy]
    exact hR.saying hu h asPath after (.mk l cs) fun choice =>
      related_ofChildren hR hu choice (h.below l.kind) cs

theorem related_ofChildren {R : Outline → Outline → Prop} (hR : Compatible R)
    {uses : Node → Outline} (hu : ∀ tree, R (sayingUse tree) (uses tree)) (choice : Choice)
    {p q : Place} (h : PlaceRelated R p q) :
    ∀ ns : List Node, R (ofChildren choice p ns) (ofChildrenBy uses choice q ns)
  | [] => hR.refl []
  | .mk l cs :: after => by
    have ha := related_ofAttributes hR hu h.above cs
    have hn := related_ofNode hR hu choice.asPath h after (.mk l cs)
    have hs := related_ofChildren hR hu choice (h.past (.mk l cs) ha) after
    exact hR.row hn hs

theorem related_ofAttributes {R : Outline → Outline → Prop} (hR : Compatible R)
    {uses : Node → Outline} (hu : ∀ tree, R (sayingUse tree) (uses tree)) {above around : List Kind}
    (h : above = around) : ∀ ns : List Node,
      AttributesRelated R (ofAttributes above ns) (ofAttributesBy uses around ns)
  | [] => .nil
  | .mk l cs :: after => by
    subst h
    have hfirst := related_ofChildren hR hu .first
      (placeRelated_nil (l.kind :: .attributeItem :: above)) cs
    rw [ofAttributes, ofAttributesBy]
    refine List.rel_append ?_ (related_ofAttributes hR hu rfl after)
    split
    · exact .cons ⟨rfl, hfirst⟩ .nil
    · exact .nil
end

end CrateUsage.Outline

namespace CrateUsage.Node

def outlineBy (uses : Node → Outline) (root : Node) : Outline :=
  Outline.ofNodeBy uses false {} [] root

theorem related_outline {R : Outline → Outline → Prop} (hR : Outline.Compatible R)
    {uses : Node → Outline} (hu : ∀ tree, R (Outline.sayingUse tree) (uses tree)) (root : Node) :
    R root.outline (root.outlineBy uses) :=
  Outline.related_ofNode hR hu false (Outline.placeRelated_nil []) [] root

/-- With the usual reading of use trees the reader is the usual one. -/
theorem outlineBy_sayingUse (root : Node) : root.outlineBy Outline.sayingUse = root.outline :=
  (related_outline Outline.compatible_eq (fun _ => rfl) root).symm

end CrateUsage.Node
