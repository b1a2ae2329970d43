import CrateUsage.Proofs.ExchangedOutlines
import CrateUsage.Proofs.Meaning

namespace CrateUsage

namespace Node

/-- A comment as it stands among the children of a node: named, in no field, without parts. -/
structure IsRemark (c : Node) : Prop where
  comment : c.kind.isComment = true
  named : c.named = true
  field : c.label.field = none
  leaf : c.children = []

def isArguments (kind : Kind) (before : List Node) (n : Node) : Bool :=
  kind = .attributeBody && n.label.field == some "arguments" &&
    !before.any (·.label.field == some "arguments")

/-- Whether a comment may stand behind the given children of a node: not among counted tokens, and
in an attribute or a wildcard not before the first named child, which is its path. -/
def admitsRemark (counted : Bool) (kind : Kind) (before : List Node) : Bool :=
  !counted && (!(kind = .attributeBody || kind = .useWildcard) || before.any named)

mutual
/-- The second tree is the first with comments put in, where the text of a whole construct, which
nobody reads, may change. Whether tokens are counted hangs on the node above. -/
inductive Remarked : Bool → Node → Node → Prop
  | within {counted : Bool} {l k : Label} {cs ds : List Node} (hl : k.essence = l.essence)
      (h : RemarkedRow counted l.kind [] cs ds) : Remarked counted (.mk l cs) (.mk k ds)

inductive RemarkedRow : Bool → Kind → List Node → List Node → List Node → Prop
  | nil {counted : Bool} {kind : Kind} {before : List Node} : RemarkedRow counted kind before [] []
  | kept {counted : Bool} {kind : Kind} {before ns ms : List Node} {n m : Node}
      (hn : Remarked (isArguments kind before n) n m)
      (hs : RemarkedRow counted kind (n :: before) ns ms) :
      RemarkedRow counted kind before (n :: ns) (m :: ms)
  | added {counted : Bool} {kind : Kind} {before ns ms : List Node} {c : Node} (hc : IsRemark c)
      (ha : admitsRemark counted kind before = true) (hs : RemarkedRow counted kind before ns ms) :
      RemarkedRow counted kind before ns (c :: ms)
end

mutual
theorem Remarked.refl (counted : Bool) : ∀ n : Node, Remarked counted n n
  | .mk l cs => .within rfl (RemarkedRow.refl counted l.kind [] cs)

theorem RemarkedRow.refl (counted : Bool) (kind : Kind) (before : List Node) :
    ∀ ns : List Node, RemarkedRow counted kind before ns ns
  | [] => .nil
  | n :: ns => .kept (Remarked.refl _ n) (RemarkedRow.refl counted kind (n :: before) ns)
end

namespace IsRemark

variable {c : Node} (h : IsRemark c)

include h

theorem kind_ne {kind : Kind} (hk : kind.isComment = false) : c.kind ≠ kind := by
  rintro rfl
  rw [h.comment] at hk
  cases hk

theorem not_in_field (field : String) : (c.label.field == some field) = false := by
  rw [h.field]
  rfl

end IsRemark

section Node

variable {counted : Bool} {n m : Node} (h : Remarked counted n m)

include h

theorem Remarked.essence : m.label.essence = n.label.essence := by
  cases h with
  | within hl _ => exact hl

theorem Remarked.row : RemarkedRow counted n.kind [] n.children m.children := by
  cases h with
  | within _ h => exact h

theorem Remarked.kind_eq : m.kind = n.kind := Label.kind_of_essence h.essence

theorem Remarked.named_eq : m.named = n.named := Label.named_of_essence h.essence

theorem Remarked.field_eq : m.label.field = n.label.field := Label.field_of_essence h.essence

theorem Remarked.line_eq : m.line = n.line := by
  simp only [line, Label.row_of_essence h.essence]

theorem Remarked.read_eq (hw : n.label.isWord = true) : m.read = n.read := by
  cases h with
  | within hl _ => exact read_of_essence hl hw _ _

theorem Remarked.face_eq : m.face = n.face := by
  cases h with
  | within hl _ => exact face_of_essence hl _ _

theorem Remarked.takes_eq {choice : Outline.Choice} :
    choice.takes m.label = choice.takes n.label := by
  have hnamed : m.label.named = n.label.named := h.named_eq
  cases choice <;> simp only [Outline.Choice.takes, hnamed, h.field_eq]

end Node

section Row

variable {α : Type} {f : Node → α} {counted : Bool} {kind : Kind}

/-- The first child in a field stays the first, for comments stand in none. -/
theorem RemarkedRow.find? {field : String}
    (hf : ∀ {before c d}, before.any (·.label.field == some field) = false →
      c.label.field = some field → Remarked (isArguments kind before c) c d → f d = f c) :
    ∀ {before ns ms : List Node}, before.any (·.label.field == some field) = false →
      RemarkedRow counted kind before ns ms →
        (ms.find? (·.label.field == some field)).map f =
          (ns.find? (·.label.field == some field)).map f
  | _, [], [], _, .nil => rfl
  | before, n :: ns, m :: ms, hb, .kept hn hs => by
    rw [List.find?_cons, List.find?_cons, hn.field_eq]
    cases hfield : n.label.field == some field with
    | true => exact congrArg some (hf hb (eq_of_beq hfield) hn)
    | false => exact hs.find? hf (by rw [List.any_cons, hfield, hb, Bool.false_or])
  | _, _, c :: ms, hb, .added hc _ hs => by
    rw [List.find?_cons, hc.not_in_field]
    exact hs.find? hf hb

/-- Where a comment may not be the first named child, the first named child stays. -/
theorem RemarkedRow.firstNamed (hf : ∀ {below c d}, Remarked below c d → f d = f c) :
    ∀ {before ns ms : List Node}, admitsRemark counted kind before = false →
      RemarkedRow counted kind before ns ms →
        (ms.find? named).map f = (ns.find? named).map f
  | _, [], [], _, .nil => rfl
  | before, n :: ns, m :: ms, hb, .kept hn hs => by
    rw [List.find?_cons, List.find?_cons, hn.named_eq]
    cases hnamed : n.named with
    | true => exact congrArg some (hf hn)
    | false =>
      refine hs.firstNamed hf ?_
      rw [← hb, admitsRemark, admitsRemark, List.any_cons, hnamed, Bool.false_or]
  | _, _, c :: ms, hb, .added _ ha _ => by
    rw [hb] at ha
    cases ha

/-- Counted tokens stay as they are. -/
theorem RemarkedRow.faces : ∀ {before ns ms : List Node}, RemarkedRow true kind before ns ms →
    ms.map face = ns.map face
  | _, [], [], .nil => rfl
  | _, n :: ns, m :: ms, .kept hn hs => by
    rw [List.map_cons, List.map_cons, hn.face_eq, hs.faces]
  | _, _, c :: ms, .added _ ha _ => by cases ha

theorem RemarkedRow.any_selfWord : ∀ {before ns ms : List Node},
    RemarkedRow counted kind before ns ms →
      (ms.filter named).any (·.kind = .selfWord) = (ns.filter named).any (·.kind = .selfWord)
  | _, [], [], .nil => rfl
  | _, n :: ns, m :: ms, .kept hn hs => by
    have hrest := hs.any_selfWord
    simp only [List.any_filter] at hrest ⊢
    simp only [List.any_cons, hrest, hn.named_eq, hn.kind_eq]
  | _, ns, c :: ms, .added hc _ hs => by
    have hrest := hs.any_selfWord
    have hk : c.kind ≠ .selfWord := hc.kind_ne rfl
    simp only [List.any_filter] at hrest ⊢
    simp only [List.any_cons, hrest, hk, decide_false, Bool.and_false, Bool.false_or]

/-- Attributes are parted from their item by no comment. -/
theorem RemarkedRow.isOwned (above : List Kind) {before ns ms : List Node}
    (h : RemarkedRow counted kind before ns ms) : isOwned above ms = isOwned above ns := by
  unfold Node.isOwned
  induction ms generalizing before ns with
  | nil =>
    cases h
    rfl
  | cons m ms ih =>
    cases h with
    | @kept _ _ _ ns _ n _ hn hs =>
      rw [decorated?_cons, decorated?_cons, hn.named_eq, isDecoration, isDecoration, hn.kind_eq]
      split
      · simp only [Option.any_some, ownsAttributes, hn.kind_eq]
      · exact ih hs
    | added hc _ hs =>
      rw [decorated?_cons, isDecoration, hc.comment, Bool.or_true, Bool.not_true, Bool.and_false]
      exact ih hs

end Row

section Kept

variable {α : Type} {f : Node → α} {counted : Bool} {n m : Node} (h : Remarked counted n m)

include h

theorem Remarked.child? (field : String) (hf : ∀ {before c d},
    before.any (·.label.field == some field) = false → c.label.field = some field →
      Remarked (isArguments n.kind before c) c d → f d = f c) :
    (m.child? field).map f = (n.child? field).map f :=
  h.row.find? hf rfl

theorem Remarked.firstNamed (hk : n.kind = .attributeBody ∨ n.kind = .useWildcard)
    (hf : ∀ {below c d}, Remarked below c d → f d = f c) :
    m.namedChildren.head?.map f = n.namedChildren.head?.map f := by
  unfold namedChildren
  rw [List.head?_filter, List.head?_filter]
  refine h.row.firstNamed hf ?_
  rcases hk with hk | hk <;> simp [admitsRemark, hk]

theorem Remarked.hasSelf_eq : m.hasSelf = n.hasSelf := h.row.any_selfWord

end Kept

mutual
/-- By induction on the path: a comment in it is no segment of it. -/
theorem Remarked.segments : ∀ {counted : Bool} {n m : Node}, Remarked counted n m →
    m.segments.map mention = n.segments.map mention
  | counted, .mk l cs, .mk k ds, .within hl h => by
    have hnode : Remarked counted (.mk l cs) (.mk k ds) := .within hl h
    rw [segments_eq, segments_eq (.mk l cs), hnode.kind_eq]
    split
    · have hname : ((Node.mk k ds).child? "name").map mention =
          ((Node.mk l cs).child? "name").map mention := by
        refine hnode.child? "name" fun {_ c d} _ hc hcd => ?_
        have hw : c.label.isWord = true := by simp [Label.isWord, hc]
        rw [mention, mention, hcd.read_eq hw, hcd.line_eq]
      rw [List.map_append, List.map_append, ← Option.toList_map, ← Option.toList_map, hname]
      exact congrArg (· ++ _) (h.segmentsAt "path")
    · split
      · exact h.segmentsAt "type"
      · split
        · rename_i hs
          have hw : (Node.mk l cs).label.isWord = true := by
            simp only [Label.isWord, Bool.or_eq_true]
            exact .inl (.inl hs)
          simp only [List.map_cons, List.map_nil, mention, hnode.read_eq hw, hnode.line_eq]
        · rfl

theorem RemarkedRow.segmentsAt : ∀ {counted : Bool} {kind : Kind} {before ns ms : List Node},
    RemarkedRow counted kind before ns ms →
      ∀ field, (segmentsAt field ms).map mention = (segmentsAt field ns).map mention
  | _, _, _, [], [], .nil, _ => rfl
  | _, _, _, n :: ns, m :: ms, .kept hn hs, field => by
    simp only [Node.segmentsAt, hn.field_eq]
    split
    · exact hn.segments
    · exact hs.segmentsAt field
  | _, _, _, _, c :: ms, .added hc _ hs, field => by
    simp only [Node.segmentsAt, hc.not_in_field, Bool.false_eq_true, if_false]
    exact hs.segmentsAt field
end

end Node

namespace Attribute

variable {counted : Bool} {a b : Node} (h : Node.Remarked counted a b)
  (hk : a.kind = .attributeBody)

include h hk

theorem name_remarked : name b = name a :=
  name_of_firstNamed (h.firstNamed (.inl hk) fun hcd => hcd.face_eq)

theorem isCfgTest_remarked : isCfgTest b = isCfgTest a := by
  apply isCfgTest_of_name (name_remarked h hk)
  intro _
  refine h.child? "arguments" fun {before c d} hb hc hcd => ?_
  have hcounted : Node.isArguments a.kind before c = true := by
    simp only [Node.isArguments, hk, hc, hb]
    rfl
  rw [hcounted] at hcd
  exact saysTest_of_faces hcd.row.faces

end Attribute

namespace Outline

open Node (Remarked RemarkedRow admitsRemark)

section Words

variable {counted : Bool} {n m : Node} (h : Remarked counted n m)

include h

theorem pathView_remarked : pathView m = pathView n := by
  rw [pathView, pathView, h.line_eq, h.segments]

theorem sameUse_remarked : SameUse n m where
  kind := h.kind_eq
  view := pathView_remarked h
  read := h.read_eq
  path := h.child? "path" fun _ _ hcd => pathView_remarked hcd
  renamed := h.child? "alias" fun {_ c d} _ hc hcd => by
    have hw : c.label.isWord = true := by simp [Label.isWord, hc]
    exact hcd.read_eq hw
  first := fun hk => h.firstNamed (.inr hk) fun hcd => pathView_remarked hcd
  hasSelf := fun _ => h.child? "list" fun _ _ hcd => hcd.hasSelf_eq

end Words

mutual
/-- By induction on the use tree: a comment among its parts brings no name. -/
theorem useNames_remarked : ∀ {counted : Bool} {n m : Node}, Remarked counted n m →
    useNames m = useNames n
  | counted, .mk l cs, .mk k ds, .within hl h => by
    have hnode : Remarked counted (.mk l cs) (.mk k ds) := .within hl h
    exact (sameUse_remarked hnode).useNames_eq_of (useNamesAt_remarked h "list")
      (useNamesOf_remarked h)

theorem useNamesOf_remarked : ∀ {counted : Bool} {kind : Kind} {before ns ms : List Node},
    RemarkedRow counted kind before ns ms → useNamesOf ms = useNamesOf ns
  | _, _, _, [], [], .nil => rfl
  | _, _, _, n :: ns, m :: ms, .kept hn hs => by
    simp only [useNamesOf, hn.named_eq, useNames_remarked hn, useNamesOf_remarked hs]
  | _, _, _, _, c :: ms, .added hc _ hs => by
    rw [useNamesOf, useNames_comment hc.comment, ite_self]
    exact useNamesOf_remarked hs

theorem useNamesAt_remarked : ∀ {counted : Bool} {kind : Kind} {before ns ms : List Node},
    RemarkedRow counted kind before ns ms → ∀ field, useNamesAt field ms = useNamesAt field ns
  | _, _, _, [], [], .nil, _ => rfl
  | _, _, _, n :: ns, m :: ms, .kept hn hs, field => by
    simp only [useNamesAt, hn.field_eq, useNames_remarked hn, useNamesAt_remarked hs field]
  | _, _, _, _, c :: ms, .added hc _ hs, field => by
    simp only [useNamesAt, hc.not_in_field, Bool.false_eq_true, if_false]
    exact useNamesAt_remarked hs field
end

theorem sameHead_remarked {counted : Bool} {n m : Node} (h : Remarked counted n m) :
    SameHead n m where
  kind := h.kind_eq
  path _ := pathHead_of_view (pathView_remarked h)
  argument _ := elim_congr (h.child? "argument" fun _ _ hcd => by
    simp only [sayingUse, (sameUse_remarked hcd).useRoot_eq, useNames_remarked hcd])
  name _ := h.child? "name" fun {_ c d} _ hc hcd => by
    have hw : c.label.isWord = true := by simp [Label.isWord, hc]
    rw [Node.mention, Node.mention, hcd.read_eq hw, hcd.line_eq]

mutual
/-- By induction on the tree, together for a node, a row of children and a row of attributes: a
comment says nothing, and the nodes around it say what they said without it. -/
theorem remarked_ofNode : ∀ {counted : Bool} {n m : Node}, Remarked counted n m →
    ∀ asPath {p q : Place}, PlaceExchanged (· = ·) p q → ∀ {after rest : List Node},
      Node.isOwned p.above rest = Node.isOwned p.above after →
        ofNode asPath p after n = ofNode asPath q rest m
  | counted, .mk l cs, .mk k ds, .within hl h, asPath, p, q, hp, after, rest, ho => by
    have hnode : Remarked counted (.mk l cs) (.mk k ds) := .within hl h
    rw [ofNode_eq_saying, ofNode_eq_saying, hnode.kind_eq]
    refine compatible_eq.saying_of_sameHead (sameHead_remarked hnode) asPath hp ho
      fun choice hfirst => ?_
    refine remarked_ofChildren h choice (fun hc => ?_) (hp.below l.kind)
    have hk : l.kind = .attributeBody := hfirst hc
    simp [admitsRemark, hk]

theorem remarked_ofChildren : ∀ {counted : Bool} {kind : Kind} {before ns ms : List Node},
    RemarkedRow counted kind before ns ms → ∀ choice,
      (choice = .first → admitsRemark counted kind before = false) →
        ∀ {p q : Place}, PlaceExchanged (· = ·) p q →
          ofChildren choice p ns = ofChildren choice q ms
  | _, _, _, [], [], .nil, _, _, _, _, _ => rfl
  | counted, kind, before, n :: ns, m :: ms, .kept hn hs, choice, hfirst, p, q, hp => by
    have ho := hs.isOwned p.above
    have hsaid := remarked_ofNode hn choice.asPath hp ho
    have hbehind : PlaceExchanged (· = ·) (p.behind n) (q.behind m) := by
      refine hp.behind hn.named_eq (by rw [hn.kind_eq]) (by rw [hn.kind_eq]) fun _ => ?_
      rw [hp.above]
      exact match hn with
        | .within _ h => remarked_ofAttributes h p.above
    by_cases he : choice = .every
    · subst he
      rw [ofChildren_every_cons, ofChildren_every_cons, hn.named_eq]
      rw [remarked_ofChildren hs .every (fun hc => by cases hc) hbehind]
      exact congrArg (fun said => (if n.named then said else []) ++ _) hsaid
    · rw [ofChildren_cons he, ofChildren_cons he, hn.takes_eq]
      split
      · exact hsaid
      · rename_i ht
        refine remarked_ofChildren hs choice (fun hc => ?_) hbehind
        subst hc
        have hnamed : n.named = false := Bool.eq_false_iff.mpr ht
        rw [← hfirst rfl, admitsRemark, admitsRemark, List.any_cons, hnamed, Bool.false_or]
  | _, _, _, ns, c :: ms, .added hc ha hs, choice, hfirst, p, q, hp => by
    have hbehind : q.behind c = q := by
      rw [Place.behind, hc.comment, Bool.or_true, if_pos rfl]
    have hrest := remarked_ofChildren hs choice hfirst hp
    by_cases he : choice = .every
    · subst he
      rw [ofChildren_every_cons, hbehind, ofNode_comment hc.comment hc.leaf, ite_self]
      exact hrest
    · have ht : choice.takes c.label = false := by
        cases choice with
        | every => exact absurd rfl he
        | first =>
          rw [hfirst rfl] at ha
          cases ha
        | field name | pathField name => exact hc.not_in_field name
      rw [ofChildren_cons he, hbehind, ht, if_neg Bool.false_ne_true]
      exact hrest

theorem remarked_ofAttributes : ∀ {counted : Bool} {kind : Kind} {before ns ms : List Node},
    RemarkedRow counted kind before ns ms → ∀ above,
      List.Forall₂ (AttributeExchanged (· = ·)) (ofAttributes above ns) (ofAttributes above ms)
  | _, _, _, [], [], .nil, _ => .nil
  | _, kind, before, n :: ns, m :: ms, .kept hn hs, above => by
    rw [ofAttributes_cons, ofAttributes_cons, hn.named_eq, hn.kind_eq]
    refine List.rel_append ?_ (remarked_ofAttributes hs above)
    split
    · rename_i hb
      have hk : n.kind = .attributeBody := of_decide_eq_true (Bool.and_eq_true_iff.mp hb).2
      have hplace : PlaceExchanged (· = ·) ⟨n.kind :: .attributeItem :: above, []⟩
          ⟨n.kind :: .attributeItem :: above, []⟩ := ⟨rfl, .nil⟩
      have hfirst : ofChildren .first ⟨n.kind :: .attributeItem :: above, []⟩ n.children =
          ofChildren .first ⟨n.kind :: .attributeItem :: above, []⟩ m.children := by
        have hadmits : admitsRemark (Node.isArguments kind before n) n.kind [] = false := by
          simp [admitsRemark, hk]
        exact match hn, hadmits, hplace with
          | .within _ h, hadmits, hplace => remarked_ofChildren h .first (fun _ => hadmits) hplace
      exact .cons ⟨Attribute.name_remarked hn hk, Attribute.isCfgTest_remarked hn hk, hfirst⟩ .nil
    · exact .nil
  | _, _, _, _, c :: ms, .added hc _ hs, above => by
    have hk : c.kind ≠ .attributeBody := hc.kind_ne rfl
    rw [ofAttributes_cons]
    simp only [hk, decide_false, Bool.and_false, Bool.false_eq_true, if_false, List.nil_append]
    exact remarked_ofAttributes hs above
end

end Outline

/-- Comments do not matter: wherever comments are put into a tree, except before the path of an
attribute or of a wildcard and among the arguments of an attribute, what is found in the tree stays,
or it cannot be read for the same reason. -/
theorem Node.discover_remarked {a b : Node} (h : Remarked false a b) : b.discover = a.discover := by
  have ho : a.outline = b.outline := Outline.remarked_ofNode h false ⟨rfl, .nil⟩ rfl
  rw [discover_eq_outline, discover_eq_outline, ho]

/-- Comments behind the attribute `cfg(test)` and within it, in the module that it decorates, in a
group of names and in a wildcard. -/
theorem Node.discover_remarked_tests :
    let comment := worded .blockComment none "/* */" []
    let path := worded .identifier (some "path")
    let file := fun between : List Node =>
      worded .sourceFile none "" ([worded .attributeItem none "" [
          worded .attributeBody none "" ([worded .identifier none "cfg" []] ++ between ++ [
            worded .tokenTree (some "arguments") "" [
              worded .openParen none "(" [], worded .identifier none "test" [],
              worded .closeParen none ")" []]])]] ++ between ++ [
        worded .modItem none "" [
          worded .identifier (some "name") "tests" [],
          worded .declarationList (some "body") "" (between ++ [
            worded .useDeclaration none "" [
              worded .scopedUseList (some "argument") "" [path "rand" [],
                worded .useList (some "list") "" (between ++ [worded .selfWord none "self" []])]],
            twoSegments none "rand" "random"])],
        worded .useDeclaration none "" [
          worded .useWildcard (some "argument") "" ([worded .identifier none "serde" []] ++ between)]])
    Remarked false (file []) (file [comment, comment]) ∧
      (file [comment, comment]).discover = (file []).discover ∧
      (file []).discover = .ok
        { normal := ["serde"], testOnly := ["rand"],
          records := [⟨"rand", .testOnly, some 1⟩, ⟨"serde", .normal, some 1⟩], hints := {} } := by
  intro comment path file
  have hc : IsRemark comment := ⟨rfl, rfl, rfl, rfl⟩
  have hbetween : ∀ {counted kind before ns ms}, admitsRemark counted kind before = true →
      RemarkedRow counted kind before ns ms →
        RemarkedRow counted kind before ns ([comment, comment] ++ ms) :=
    fun ha hs => .added hc ha (.added hc ha hs)
  have hfile : Remarked false (file []) (file [comment, comment]) := by
    refine .within rfl (.kept (.within rfl (.kept ?mark .nil))
      (hbetween rfl (.kept ?item (.kept ?declaration .nil))))
    case mark =>
      exact .within rfl (.kept (.refl _ _) (hbetween rfl (.refl _ _ _ _)))
    case item =>
      refine .within rfl (.kept (.refl _ _) (.kept (.within rfl (hbetween rfl
        (.kept ?group (.refl _ _ _ _)))) .nil))
      refine .within rfl (.kept (.within rfl (.kept (.refl _ _) (.kept ?list .nil))) .nil)
      exact .within rfl (hbetween rfl (.refl _ _ _ _))
    case declaration =>
      refine .within rfl (.kept (.within rfl ?_) .nil)
      exact .kept (.refl _ _) (hbetween rfl .nil)
  exact ⟨hfile, discover_remarked hfile, by rfl⟩

end CrateUsage
