import CrateUsage.Proofs.Meaning
import CrateUsage.Proofs.TestBodies
import CrateUsage.Usage
import Mathlib.Data.List.Forall2

namespace CrateUsage

def Reading.normal (r : Reading) : List Record := r.emitted.filter (·.build = .normal)

/-- Two readings that no build but a test build tells apart. -/
structure Reading.Agrees (r q : Reading) : Prop where
  normal : r.normal = q.normal
  visible : r.visible = q.visible
  hasMain : r.hints.hasMain = q.hints.hasMain

theorem Reading.Agrees.refl (r : Reading) : r.Agrees r := ⟨rfl, rfl, rfl⟩

namespace Meaning

/-- Nothing but a test build tells the two apart, in any setting that is outermost only if
`outermost` says so. -/
def Alike (outermost : Bool) (a b : Meaning) : Prop :=
  ∀ (c : Setting) (visible : List String), (c.outermost = true → outermost = true) →
    (a c visible).Agrees (b c visible)

def Quiet (a : Meaning) : Prop :=
  ∀ (c : Setting) (visible : List String), c.testOnly = true → c.outermost = false →
    (a c visible).normal = [] ∧ (a c visible).hints.hasMain = false

variable {outermost : Bool} {a b d e : Meaning}

theorem Alike.refl (outermost : Bool) (a : Meaning) : Alike outermost a a :=
  fun c visible _ => .refl (a c visible)

theorem Alike.symm (h : Alike outermost a b) : Alike outermost b a := by
  intro c visible hc
  obtain ⟨hn, hv, hm⟩ := h c visible hc
  exact ⟨hn.symm, hv.symm, hm.symm⟩

theorem Alike.trans (h : Alike outermost a b) (g : Alike outermost b d) : Alike outermost a d := by
  intro c visible hc
  obtain ⟨hn, hv, hm⟩ := h c visible hc
  obtain ⟨gn, gv, gm⟩ := g c visible hc
  exact ⟨hn.trans gn, hv.trans gv, hm.trans gm⟩

theorem Alike.inner (h : Alike outermost a b) : Alike false a b := by
  intro c visible hc
  refine h c visible fun ho => ?_
  cases hc ho

theorem Alike.andThen (h : Alike outermost a b) (g : Alike outermost d e) :
    Alike outermost (a.andThen d) (b.andThen e) := by
  intro c visible hc
  obtain ⟨hn, hv, hm⟩ := h c visible hc
  obtain ⟨gn, gv, gm⟩ := g c (b c visible).visible hc
  unfold Meaning.andThen
  refine ⟨?_, ?_, ?_⟩
  · simp only [Reading.normal, List.filter_append] at hn gn ⊢
    rw [hv, hn, gn]
  · simp only [hv, gv]
  · simp only [Hints.join, hv, hm, gm]

theorem Alike.enclosed (h : Alike false a b) (marked : Bool) :
    Alike outermost (.enclosed marked a) (.enclosed marked b) := by
  intro c visible _
  obtain ⟨hn, -, hm⟩ := h (c.within marked) visible id
  exact ⟨hn, rfl, hm⟩

theorem Alike.telling (h : Alike outermost a b) (hints : Hints) :
    Alike outermost (.telling hints a) (.telling hints b) := by
  intro c visible hc
  obtain ⟨hn, hv, hm⟩ := h c visible hc
  exact ⟨hn, hv, by simp only [Meaning.telling, Hints.join, hm]⟩

theorem Alike.freeFunction (h : Alike false a b) (name : Option String) (markers : Markers) :
    Alike outermost (.freeFunction name markers a) (.freeFunction name markers b) := by
  intro c visible hc
  unfold Meaning.freeFunction
  split
  · exact (h.enclosed false).telling _ c visible hc
  · exact (h.enclosed markers.isTest).telling _ c visible hc

/-- What only tests are built from may be anything. -/
theorem Quiet.enclosed (ha : Quiet a) (hb : Quiet b) :
    Alike outermost (.enclosed true a) (.enclosed true b) := by
  intro c visible _
  have ht : (c.within true).testOnly = true := Bool.or_true c.testOnly
  obtain ⟨an, am⟩ := ha (c.within true) visible ht rfl
  obtain ⟨bn, bm⟩ := hb (c.within true) visible ht rfl
  exact ⟨an.trans bn.symm, rfl, am.trans bm.symm⟩

theorem Quiet.freeFunction (ha : Quiet a) (hb : Quiet b) {name : Option String}
    {markers : Markers} (hm : markers.isTest = true)
    (hn : (outermost && name = some "main") = false) :
    Alike outermost (.freeFunction name markers a) (.freeFunction name markers b) := by
  intro c visible hc
  have hmain : (c.outermost && name = some "main") = false := by
    cases ho : c.outermost with
    | false => rfl
    | true => rw [← hn, hc ho]
  unfold Meaning.freeFunction
  rw [hmain, hm]
  exact (Quiet.enclosed ha hb).telling _ c visible hc

theorem Quiet.andThen (ha : Quiet a) (hb : Quiet b) : Quiet (a.andThen b) := by
  intro c visible ht ho
  obtain ⟨an, am⟩ := ha c visible ht ho
  obtain ⟨bn, bm⟩ := hb c (a c visible).visible ht ho
  refine ⟨?_, ?_⟩
  · simp only [Reading.normal, Meaning.andThen, List.filter_append] at an bn ⊢
    rw [an, bn]
    rfl
  · simp only [Meaning.andThen, Hints.join, am, bm, Bool.or_false]

theorem quiet_enclosed (h : Quiet a) (marked : Bool) : Quiet (.enclosed marked a) := by
  intro c visible ht _
  exact h (c.within marked) visible (by simp [Setting.within, ht]) rfl

end Meaning

mutual
/-- By induction on the steps: where only tests are built, every reference is one for tests, and no
function is the entry point. -/
theorem Step.quiet_meaning : ∀ step : Step, step.meaning.Quiet
  | .refer name line => by
    intro c visible ht _
    refine ⟨?_, rfl⟩
    simp only [Step.meaning, Meaning.emit, Reading.normal, Setting.build, ht]
    split <;> rfl
  | .declare name => fun _ _ _ _ => ⟨rfl, rfl⟩
  | .unreadable _ => fun _ _ _ _ => ⟨rfl, rfl⟩
  | .scope marked body => Meaning.quiet_enclosed (Step.quiet_meaningAll body) marked
  | .function name markers body => by
    intro c visible ht ho
    have hb := Meaning.quiet_enclosed (Step.quiet_meaningAll body)
    simp only [Step.meaning, Meaning.freeFunction, ho, Bool.false_and]
    exact hb _ c visible ht ho

theorem Step.quiet_meaningAll : ∀ steps : List Step, (Step.meaningAll steps).Quiet
  | [] => fun _ _ _ _ => ⟨rfl, rfl⟩
  | step :: steps => (Step.quiet_meaning step).andThen (Step.quiet_meaningAll steps)
end

namespace Outline

open Step (meaningAll)

def Alike (outermost : Bool) (a b : Outline) : Prop :=
  (meaningAll a).Alike outermost (meaningAll b)

variable {outermost : Bool} {a b d e : Outline}

theorem Alike.refl (outermost : Bool) (a : Outline) : Alike outermost a a :=
  Meaning.Alike.refl outermost (meaningAll a)

theorem Alike.inner (h : Alike outermost a b) : Alike false a b := Meaning.Alike.inner h

theorem Alike.append (h : Alike outermost a b) (g : Alike outermost d e) :
    Alike outermost (a ++ d) (b ++ e) := by
  unfold Alike
  rw [Step.meaningAll_append, Step.meaningAll_append]
  exact Meaning.Alike.andThen h g

theorem Alike.scope (h : Alike false a b) (marked : Bool) :
    Alike outermost [.scope marked a] [.scope marked b] := by
  unfold Alike
  rw [Step.meaningAll_singleton, Step.meaningAll_singleton]
  exact Meaning.Alike.enclosed h marked

theorem Alike.function (h : Alike false a b) (name : Option (Except Kind String))
    (markers : Except Kind Markers) :
    Alike outermost [.function name markers a] [.function name markers b] := by
  unfold Alike
  rw [Step.meaningAll_singleton, Step.meaningAll_singleton]
  exact Meaning.Alike.freeFunction h _ _

theorem alike_testScope (a b : Outline) : Alike outermost [.scope true a] [.scope true b] := by
  unfold Alike
  rw [Step.meaningAll_singleton, Step.meaningAll_singleton]
  exact Meaning.Quiet.enclosed (Step.quiet_meaningAll a) (Step.quiet_meaningAll b)

theorem alike_testFunction (a b : Outline) {name : Option (Except Kind String)}
    {markers : Markers} (hm : markers.isTest = true)
    (hn : (outermost && name.bind Except.toOption = some "main") = false) :
    Alike outermost [.function name (.ok markers) a] [.function name (.ok markers) b] := by
  unfold Alike
  rw [Step.meaningAll_singleton, Step.meaningAll_singleton]
  exact Meaning.Quiet.freeFunction (Step.quiet_meaningAll a) (Step.quiet_meaningAll b) hm hn

theorem Alike.flatMap {α : Type} {f g : α → Outline} {as bs : List α}
    (h : List.Forall₂ (fun a b => Alike outermost (f a) (g b)) as bs) :
    Alike outermost (as.flatMap f) (bs.flatMap g) := by
  induction h with
  | nil => exact .refl _ _
  | cons hab _ ih => exact hab.append ih

theorem toOption_read (name : Option Node) :
    (name.map Node.read).bind Except.toOption = name.bind Node.text := by
  cases name with
  | none => rfl
  | some n =>
    simp only [Option.map_some, Option.bind_some, Node.read]
    cases n.text <;> rfl

structure AttributeEmptied (a b : Node × Outline) : Prop where
  name : Attribute.name b.1 = Attribute.name a.1
  isCfgTest : Attribute.isCfgTest b.1 = Attribute.isCfgTest a.1
  outline : Alike false a.2 b.2

structure PlaceEmptied (before : List Node) (p q : Place) : Prop where
  above : q.above = p.above
  attributes : List.Forall₂ AttributeEmptied p.attributes q.attributes
  held : p.attributes.map (·.1) = Node.outerAttributes before

namespace PlaceEmptied

variable {before : List Node} {p q : Place}

theorem below (h : PlaceEmptied before p q) (kind : Kind) :
    PlaceEmptied [] (p.below kind) (q.below kind) where
  above := by simp only [Place.below, h.above]
  attributes := .nil
  held := rfl

theorem markers_eq (h : PlaceEmptied before p q) : markers q = markers p := by
  refine Markers.ofAttributes_congr ?_
  rw [List.forall₂_map_left_iff, List.forall₂_map_right_iff]
  exact h.attributes.imp fun _ _ hab => ⟨hab.name, hab.isCfgTest⟩

theorem markedBy_eq (h : PlaceEmptied before p q) (marker : Markers → Bool) :
    Node.markedBy before marker = (markers p).toOption.any marker := by
  unfold markers Node.markedBy
  rw [h.held]

theorem attributesSay (h : PlaceEmptied before p q) :
    Alike false (attributesSay p) (Outline.attributesSay q) :=
  .flatMap (h.attributes.imp fun _ _ hab => hab.outline)

theorem behind (h : PlaceEmptied before p q) (n m : Node) (hl : m.label = n.label)
    (ha : n.kind = .attributeItem → List.Forall₂ AttributeEmptied
      (ofAttributes p.above n.children) (ofAttributes p.above m.children)) :
    PlaceEmptied (n :: before) (p.behind n) (q.behind m) where
  above := by rw [Place.above_behind, Place.above_behind, h.above]
  attributes := by
    have hk : m.kind = n.kind := congrArg Label.kind hl
    have hn : m.named = n.named := congrArg Label.named hl
    unfold Place.behind
    rw [hk, hn, h.above]
    split
    · exact h.attributes
    · split
      · rename_i hk
        exact List.rel_append h.attributes (List.rel_reverse (ha hk))
      · exact .nil
  held := Place.nodes_behind n h.held

end PlaceEmptied

section OfNode

variable {before after rest : List Node} {p q : Place} {n : Node}
  (hp : PlaceEmptied before p q)
  (hc : Node.isTestItem outermost p.above before n = false → ∀ choice,
    Alike (outermost && Node.keepsOutermost p.above after n)
      (ofChildren choice (p.below n.kind) n.children)
      (ofChildren choice (q.below n.kind) (n.emptied outermost p.above before after).children))

include hp hc

omit hp in
/-- Most nodes lose nothing themselves and open no scope. -/
theorem alike_plain {kind : Kind} (hk : n.kind = kind) (h : kind.isPlain = true)
    (choice : Choice) :
    Alike outermost (ofChildren choice (p.below kind) n.children)
      (ofChildren choice (q.below kind) (n.emptied outermost p.above before after).children) := by
  have halike := hc (Node.isTestItem_of_kind _ _ _ hk (Kind.isItem_of_isPlain h)) choice
  rw [Node.keepsOutermost_of_plain p.above after hk h, Bool.and_true, hk] at halike
  exact halike

/-- A module keeps its name, and all else that it says is for tests, or it loses nothing itself. -/
theorem alike_module (hk : n.kind = .modItem) :
    Alike outermost (ofNode false p after n)
      (ofNode false q rest (n.emptied outermost p.above before after)) := by
  rw [ofNode_eq, ofNode_eq q, Node.kind_emptied, hp.markers_eq]
  simp only [hk] at hc ⊢
  cases hm : markers p with
  | error kind => exact .refl _ _
  | ok m =>
    have hname : declaring ((n.emptied outermost p.above before after).child? "name") =
        declaring (n.child? "name") :=
      readingOf_congr _ (Node.label_child?_emptied outermost p.above before after n "name")
    dsimp only
    rw [hname]
    refine (Alike.refl _ _).append ?_
    cases hcfg : m.isCfgTest with
    | true => exact alike_testScope _ _
    | false =>
      have ht : Node.isTestItem outermost p.above before n = false := by
        simp [Node.isTestItem, hk, hp.markedBy_eq, hm, hcfg, Except.toOption]
      exact (hp.attributesSay.append (hc ht .every).inner).scope false

theorem alike_function (hk : n.kind = .functionItem) :
    Alike outermost (ofNode false p after n)
      (ofNode false q rest (n.emptied outermost p.above before after)) := by
  rw [ofNode_eq, ofNode_eq q, Node.kind_emptied, hp.markers_eq, hp.above,
    Node.read_child?_emptied]
  simp only [hk] at hc ⊢
  cases hfree : Node.isFree p.above with
  | false =>
    have ht : Node.isTestItem outermost p.above before n = false := by
      simp [Node.isTestItem, hk, hfree]
    have hkeep : Node.keepsOutermost p.above after n = true := by
      simp [Node.keepsOutermost, Node.ownsAttributes, hk, hfree]
    rw [hkeep, Bool.and_true] at hc
    exact hc ht .every
  | true =>
    cases ht : Node.isTestItem outermost p.above before n with
    | false =>
      exact (hp.attributesSay.append (hc ht .every).inner).function _ _
    | true =>
      simp only [Node.isTestItem, hk, hp.markedBy_eq, Bool.and_eq_true, Bool.not_eq_true'] at ht
      obtain ⟨⟨-, hm⟩, hn⟩ := ht
      cases hmarkers : markers p with
      | error kind =>
        rw [hmarkers] at hm
        cases hm
      | ok m =>
        rw [hmarkers] at hm
        refine alike_testFunction _ _ hm ?_
        rw [toOption_read, hn]

/-- A node and what is left of it say alike where the outlines of their children are alike. -/
theorem alike_alone (ha : rest.map Node.label = after.map Node.label) :
    Alike outermost (ofNode false p after n)
      (ofNode false q rest (n.emptied outermost p.above before after)) := by
  by_cases hm : n.kind = .modItem
  · exact alike_module hp hc hm
  by_cases hf : n.kind = .functionItem
  · exact alike_function hp hc hf
  have ht : Node.isTestItem outermost p.above before n = false :=
    Node.isTestItem_of_kind _ _ _ rfl (Kind.isItem_eq_false hm hf)
  rw [ofNode_eq, ofNode_eq q, Node.kind_emptied]
  cases hk : n.kind
  case useDeclaration =>
    dsimp only
    have htree : Node.Unaffected fun tree => useRoot tree ++ useNames tree := by
      intro outermost above before after m
      exact congr (congrArg _ (unaffected_useRoot outermost above before after m))
        (useNames_emptied outermost above before after m)
    rw [elim_congr (Node.child?_emptied htree after ht "argument")]
    exact .refl _ _
  case externCrateDeclaration =>
    dsimp only
    have hname : Node.Unaffected fun name => referring (some name) name := by
      intro outermost above before after m
      have hl := Node.label_emptied outermost above before after m
      exact referring_congr (congrArg some hl) hl
    rw [elim_congr (Node.child?_emptied hname after ht "name")]
    exact .refl _ _
  case scopedIdentifier | scopedTypeIdentifier =>
    dsimp only
    rw [pathHead_congr (Node.unaffected_surface _ _ _ _ n)]
    exact (Alike.refl _ _).append (alike_plain hc hk rfl _)
  case attributeBody =>
    exact alike_plain hc hk rfl .first
  case attributeItem =>
    dsimp only
    rw [Node.any_decorated?_congr ha, hp.above]
    split
    · exact .refl _ _
    · rename_i howned
      have hkeep : Node.keepsOutermost p.above after n = true := by
        simpa [Node.keepsOutermost, Node.ownsAttributes, hk] using howned
      have h := hc ht .every
      rw [hkeep, Bool.and_true, hk] at h
      exact h
  case block =>
    have h := hc ht .every
    rw [hk] at h
    exact h.inner.scope false
  case modItem => exact absurd hk hm
  case functionItem => exact absurd hk hf
  all_goals exact alike_plain hc hk rfl .every

omit hp in
theorem alike_asPath
    (halone : Alike outermost (ofNode false p after n)
      (ofNode false q rest (n.emptied outermost p.above before after))) :
    Alike outermost (ofNode true p after n)
      (ofNode true q rest (n.emptied outermost p.above before after)) := by
  rw [ofNode_asPath, ofNode_asPath q, Node.kind_emptied]
  split
  · exact .refl _ _
  · split
    · rename_i hk
      exact alike_plain hc rfl (Kind.isPlain_of_isScopedPath hk) _
    · split
      · rename_i hk
        have h := alike_plain hc hk rfl
        rw [hk]
        exact (h _).append (h _)
      · exact halone

end OfNode

mutual
/-- By induction on the tree, together for a node, a row of children and a row of attributes: what
is left of a tree says alike. -/
theorem alike_ofNode (outermost : Bool) {before after rest : List Node} {p q : Place}
    (hp : PlaceEmptied before p q) (ha : rest.map Node.label = after.map Node.label) : ∀ n : Node,
    Alike outermost (ofNode false p after n)
        (ofNode false q rest (n.emptied outermost p.above before after)) ∧
      Alike outermost (ofNode true p after n)
        (ofNode true q rest (n.emptied outermost p.above before after))
  | .mk l cs => by
    have hc : Node.isTestItem outermost p.above before (.mk l cs) = false → ∀ choice,
        Alike (outermost && Node.keepsOutermost p.above after (.mk l cs))
          (ofChildren choice (p.below l.kind) cs)
          (ofChildren choice (q.below l.kind)
            ((Node.mk l cs).emptied outermost p.above before after).children) := by
      intro ht choice
      rw [Node.children_emptied after ht]
      exact alike_ofChildren _ (hp.below l.kind) cs choice
    have halone := alike_alone hp hc ha
    exact ⟨halone, alike_asPath hc halone⟩
termination_by structural n => n

theorem alike_ofChildren (outermost : Bool) {before : List Node} {p q : Place}
    (hp : PlaceEmptied before p q) : ∀ (ns : List Node) (choice : Choice),
    Alike outermost (ofChildren choice p ns)
      (ofChildren choice q (Node.emptiedAll false outermost p.above before ns))
  | [], choice => .refl _ _
  | .mk l cs :: ns, choice => by
    have hlabels := Node.labels_emptiedAll false outermost p.above (.mk l cs :: before) ns
    obtain ⟨halone, hpath⟩ := alike_ofNode outermost hp hlabels (.mk l cs)
    have hlabel := Node.label_emptied outermost p.above before ns (.mk l cs)
    have hattributes : l.kind = .attributeItem → List.Forall₂ AttributeEmptied
        (ofAttributes p.above cs) (ofAttributes p.above
          ((Node.mk l cs).emptied outermost p.above before ns).children) := by
      intro hk
      have ht := Node.isTestItem_of_kind outermost p.above before (n := .mk l cs) hk rfl
      have hkind : (Node.mk l cs).kind = .attributeItem := hk
      rw [Node.children_emptied ns ht, hkind]
      exact alike_ofAttributes _ p.above [] cs
    have hrest := alike_ofChildren outermost (hp.behind _ _ hlabel hattributes) ns choice
    rw [Place.above_behind] at hrest
    rw [Node.emptiedAll_cons]
    by_cases he : choice = .every
    · subst he
      rw [ofChildren_every_cons, ofChildren_every_cons, Node.named_emptied]
      refine Alike.append ?_ hrest
      split
      · exact halone
      · exact .refl _ _
    · rw [ofChildren_cons he, ofChildren_cons he, hlabel]
      split
      · cases choice.asPath with
        | true => exact hpath
        | false => exact halone
      · exact hrest
termination_by structural ns => ns

theorem alike_ofAttributes (outermost : Bool) (above : List Kind) (before : List Node) :
    ∀ ns : List Node, List.Forall₂ AttributeEmptied (ofAttributes above ns)
      (ofAttributes above (Node.emptiedAll false outermost (.attributeItem :: above) before ns))
  | [] => .nil
  | .mk l cs :: ns => by
    rw [Node.emptiedAll_cons, ofAttributes_cons, ofAttributes_cons, Node.named_emptied,
      Node.kind_emptied]
    refine List.rel_append ?_ (alike_ofAttributes outermost above (.mk l cs :: before) ns)
    split
    · rename_i hn
      have hk : (Node.mk l cs).kind = .attributeBody :=
        of_decide_eq_true (Bool.and_eq_true_iff.mp hn).2
      have ht := Node.isTestItem_of_kind outermost (.attributeItem :: above) before hk rfl
      have hp : PlaceEmptied [] ⟨l.kind :: .attributeItem :: above, []⟩
          ⟨l.kind :: .attributeItem :: above, []⟩ := ⟨rfl, .nil, rfl⟩
      have hname := Attribute.name_emptied outermost (.attributeItem :: above) before ns hk
      have hcfg := Attribute.isCfgTest_emptied outermost (.attributeItem :: above) before ns hk
      refine .cons ⟨hname, hcfg, ?_⟩ .nil
      rw [Node.children_emptied ns ht]
      exact (alike_ofChildren _ hp cs .first).inner
    · exact .nil
termination_by structural ns => ns
end

/-- What is left of a whole tree says alike. -/
theorem alike_outline (root : Node) : Alike true root.outline root.withoutTestBodies.outline :=
  (alike_ofNode true (p := {}) (q := {}) ⟨rfl, .nil, rfl⟩ rfl root).1

end Outline

/-- What tests are built from has no say in what other builds need: trees that differ in nothing
but such bodies come to the same crates for every build, in the same order and on the same lines,
and to the same word on the entry point. -/
theorem Node.discover_normal_eq {a b : Node} (ha : ∀ m ∈ a.preorder, m.text.isSome = true)
    (hb : ∀ m ∈ b.preorder, m.text.isSome = true)
    (h : a.withoutTestBodies = b.withoutTestBodies) :
    ∃ d e, a.discover = .ok d ∧ b.discover = .ok e ∧ d.normal = e.normal ∧
      d.records.filter (·.build = .normal) = e.records.filter (·.build = .normal) ∧
      d.hints.hasMain = e.hints.hasMain ∧
      (Usage.ofDiscovery d).normal = (Usage.ofDiscovery e).normal := by
  obtain ⟨s, hs, hsl, hsh⟩ := discover_of_outline (legible_of_isSome ha)
  obtain ⟨t, ht, htl, hth⟩ := discover_of_outline (legible_of_isSome hb)
  have halike : Outline.Alike true a.outline b.outline :=
    (Outline.alike_outline a).trans (h ▸ (Outline.alike_outline b).symm)
  obtain ⟨hn, -, hm⟩ := halike {} [] id
  have hrecords : s.ledger.records.filter (·.build = .normal) =
      t.ledger.records.filter (·.build = .normal) := by
    rw [hsl, htl, Ledger.records_enterAll_empty, Ledger.records_enterAll_empty,
      firstSightings_filter, firstSightings_filter]
    exact congrArg firstSightings hn
  have hnormal : s.ledger.normal = t.ledger.normal := by
    change s.ledger.names .normal = t.ledger.names .normal
    rw [hsl, htl, Ledger.names_enterAll_empty, Ledger.names_enterAll_empty]
    exact congrArg (fun rs => (firstSightings rs).map Record.name) hn
  refine ⟨_, _, hs, ht, hnormal, hrecords, ?_, ?_⟩
  · change s.hints.hasMain = t.hints.hasMain
    rw [hsh, hth, hm]
  · change Usage.crates s.ledger.normal = Usage.crates t.ledger.normal
    rw [hnormal]

/-- A `use` that brings the name of a crate within tests does not hide the crate behind them. -/
theorem Node.discover_around_tests :
    let around := fun inside : List Node => worded .sourceFile none ""
      (testModule inside ++ [twoSegments none "rand" "random"])
    let a := around [worded .useDeclaration none "" [
      worded .useAsClause (some "argument") "regex as rand" [
        worded .identifier (some "path") "regex" [],
        worded .identifier (some "alias") "rand" []]]]
    let b := around []
    a.withoutTestBodies = b.withoutTestBodies ∧
      ∃ d e, a.discover = .ok d ∧ b.discover = .ok e ∧ d.normal = e.normal := by
  intro around a b
  have ha : ∀ m ∈ a.preorder, m.text.isSome = true := by decide
  have hb : ∀ m ∈ b.preorder, m.text.isSome = true := by decide
  have h : a.withoutTestBodies = b.withoutTestBodies := by rfl
  obtain ⟨d, e, hd, he, hn, -⟩ := discover_normal_eq ha hb h
  exact ⟨h, d, e, hd, he, hn⟩

end CrateUsage
