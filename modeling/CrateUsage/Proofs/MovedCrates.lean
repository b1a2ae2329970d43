import CrateUsage.Proofs.LexicalReading
import CrateUsage.Proofs.TestMarks
import CrateUsage.Proofs.Usages

namespace CrateUsage

/-- The second reference is the first, or what every build needs there only tests need here. -/
structure Record.Moved (r q : Record) : Prop where
  name : q.name = r.name
  build : r.build = .testOnly → q.build = .testOnly

structure Reading.Moved (r q : Reading) : Prop where
  emitted : List.Forall₂ Record.Moved r.emitted q.emitted
  visible : q.visible = r.visible

structure Setting.Moved (c d : Setting) : Prop where
  testOnly : c.testOnly = true → d.testOnly = true
  outermost : d.outermost = c.outermost

theorem Setting.Moved.refl (c : Setting) : c.Moved c := ⟨id, rfl⟩

theorem Setting.Moved.within {c d : Setting} (h : c.Moved d) {marked more : Bool}
    (hm : marked = true → more = true) : (c.within marked).Moved (d.within more) where
  testOnly := by
    simp only [Setting.within, Bool.or_eq_true]
    exact Or.imp h.testOnly hm
  outermost := rfl

namespace Meaning

def Moved (a b : Meaning) : Prop :=
  ∀ (c d : Setting) (visible : List String), c.Moved d → (a c visible).Moved (b d visible)

variable {a b p q : Meaning}

theorem moved_nothing : Moved nothing nothing := fun _ _ _ _ => ⟨.nil, rfl⟩

theorem moved_bring (name : String) : Moved (bring name) (bring name) :=
  fun _ _ _ _ => ⟨.nil, rfl⟩

theorem moved_emit (name : String) (line : Int) : Moved (emit name line) (emit name line) := by
  intro c d visible h
  refine ⟨?_, rfl⟩
  unfold emit
  split
  · exact .nil
  · refine .cons ⟨rfl, ?_⟩ .nil
    unfold Setting.build
    cases hc : c.testOnly with
    | false => exact fun hn => by cases hn
    | true => exact fun _ => by rw [h.testOnly hc]; rfl

theorem Moved.andThen (h : Moved a b) (g : Moved p q) : Moved (a.andThen p) (b.andThen q) := by
  intro c d visible hc
  obtain ⟨he, hv⟩ := h c d visible hc
  obtain ⟨ge, gv⟩ := g c d (a c visible).visible hc
  simp only [Meaning.andThen, hv]
  exact ⟨List.rel_append he ge, gv⟩

theorem Moved.enclosed (h : Moved a b) {marked more : Bool} (hm : marked = true → more = true) :
    Moved (.enclosed marked a) (.enclosed more b) := by
  intro c d visible hc
  exact ⟨(h _ _ visible (hc.within hm)).emitted, rfl⟩

theorem Moved.telling (h : Moved a b) (own other : Hints) :
    Moved (.telling own a) (.telling other b) := by
  intro c d visible hc
  obtain ⟨he, hv⟩ := h c d visible hc
  exact ⟨he, hv⟩

/-- The entry point does not read its attributes, and any other function reads its own. -/
theorem Moved.freeFunction (h : Moved a b) (name : Option String) {markers more : Markers}
    (hm : markers.isTest = true → more.isTest = true) :
    Moved (.freeFunction name markers a) (.freeFunction name more b) := by
  intro c d visible hc
  unfold Meaning.freeFunction
  rw [hc.outermost]
  split
  · exact (h.enclosed id).telling _ _ c d visible hc
  · exact (h.enclosed hm).telling _ _ c d visible hc

theorem all_append (as bs : List Meaning) : all (as ++ bs) = (all as).andThen (all bs) := by
  induction as with
  | nil => exact (nothing_andThen _).symm
  | cons a as ih =>
    change a.andThen (all (as ++ bs)) = _
    rw [ih, ← andThen_assoc]
    rfl

end Meaning

namespace Lexical

open Node (Marked MarkedRow IsTestMark)

theorem elim_congr {f : Node → Meaning} {n m : Option Node} (h : n.map f = m.map f) :
    n.elim .nothing f = m.elim .nothing f := by
  have helim : ∀ o : Option Node, o.elim .nothing f = (o.map f).getD .nothing := by
    intro o
    cases o <;> rfl
  rw [helim, helim, h]

theorem refer_congr {s t : Option Node} {n m : Node} (hs : s.map Node.label = t.map Node.label)
    (hn : n.line = m.line) : refer s n = refer t m := by
  have hrefer : ∀ (s : Option Node) (n : Node), refer s n =
      (s.map Node.label).elim .nothing fun l => .emit (l.text.getD "") n.line := by
    intro s n
    cases s <;> rfl
  rw [hrefer, hrefer, hs, hn]

theorem bring_congr {n m : Option Node} (h : n.map Node.label = m.map Node.label) :
    bring n = bring m := by
  have hbring : ∀ n : Option Node, bring n =
      (n.map Node.label).elim .nothing fun l => .bring (l.text.getD "") := by
    intro n
    cases n <;> rfl
  rw [hbring, hbring, h]

theorem moved_refer (segment : Option Node) (at_ : Node) :
    (refer segment at_).Moved (refer segment at_) := by
  cases segment with
  | none => exact Meaning.moved_nothing
  | some segment => exact Meaning.moved_emit _ _

theorem moved_bring (n : Option Node) : (bring n).Moved (bring n) := by
  cases n with
  | none => exact Meaning.moved_nothing
  | some n => exact Meaning.moved_bring _

def pathRoot (segments : List Node) : Meaning :=
  match segments with
  | first :: _ :: _ => refer (some first) first
  | _ => .nothing

section Unchanged

variable {n m : Node}

theorem refer_first_marked (n m : Node) (h : Marked n m) :
    refer m.firstSegment? m = refer n.firstSegment? n :=
  refer_congr h.firstSegment? h.line_eq

theorem refer_last_marked (n m : Node) (h : Marked n m) :
    refer m.lastSegment? m = refer n.lastSegment? n :=
  refer_congr h.lastSegment? h.line_eq

theorem usePath_marked (h : Marked n m) : usePath m = usePath n := by
  have hpath : ∀ n : Node, usePath n = (n.lastSegment?.map Node.label).elim .nothing fun l =>
      if isPathKeyword (l.text.getD "") then .nothing else .bring (l.text.getD "") := by
    intro n
    unfold usePath
    cases n.lastSegment? <;> rfl
  rw [hpath, hpath, h.lastSegment?]

theorem pathRoot_marked (h : Marked n m) : pathRoot m.segments = pathRoot n.segments := by
  have hroot : ∀ ss : List Node, pathRoot ss = pathRoot ((ss.map Node.label).map (.mk · [])) := by
    intro ss
    rcases ss with _ | ⟨_, _ | ⟨_, _⟩⟩ <;> rfl
  rw [hroot m.segments, h.segments, ← hroot]

theorem useRoot_marked (h : Marked n m) : useRoot m = useRoot n := by
  unfold useRoot usePath?
  rw [h.kind_eq]
  split
  · exact refer_first_marked n m h
  · exact refer_first_marked n m h
  · rename_i hk
    exact elim_congr (h.child? (by rw [hk]; rfl) refer_first_marked "path")
  · rename_i hk
    exact elim_congr (h.child? (by rw [hk]; rfl) refer_first_marked "path")
  · rename_i hk
    exact elim_congr (h.firstNamed (by rw [hk]; rfl) refer_first_marked)
  · rfl

theorem useSelf_marked (h : Marked n m) (hk : n.kind.holdsItems = false) :
    useSelf m = useSelf n := by
  have hself : ∀ n : Node, useSelf n =
      ((n.child? "path").map fun path => bring path.lastSegment?).elim .nothing fun said =>
        ((n.child? "list").map fun items => items.namedChildren.any (·.kind = .selfWord)).elim
          .nothing fun hasSelf => if hasSelf then said else .nothing := by
    intro n
    unfold useSelf
    cases n.child? "path" <;> cases n.child? "list" <;> rfl
  rw [hself, hself, h.child? hk (fun _ _ hp => bring_congr hp.lastSegment?) "path",
    h.child? hk (fun _ _ hp => hp.hasSelf) "list"]

end Unchanged

/-- The second row of attributes has what the first has, and may say of an item that it is for
tests. -/
structure HeldMoved (as bs : List (Node × Meaning)) : Prop where
  isTest : (Markers.told (as.map (·.1))).isTest = true →
    (Markers.told (bs.map (·.1))).isTest = true
  isCfgTest : (Markers.told (as.map (·.1))).isCfgTest = true →
    (Markers.told (bs.map (·.1))).isCfgTest = true
  say : (Meaning.all (as.map (·.2))).Moved (Meaning.all (bs.map (·.2)))

theorem heldMoved_nil : HeldMoved [] [] := ⟨id, id, Meaning.moved_nothing⟩

theorem HeldMoved.append {as bs ps qs : List (Node × Meaning)} (h : HeldMoved as bs)
    (g : HeldMoved ps qs) : HeldMoved (as ++ ps) (bs ++ qs) where
  isTest := by
    have hi := h.isTest
    have gi := g.isTest
    simp only [Markers.told, List.map_append, List.contains_eq_mem, List.mem_append,
      decide_eq_true_iff] at hi gi ⊢
    exact Or.imp hi gi
  isCfgTest := by
    have hi := h.isCfgTest
    have gi := g.isCfgTest
    simp only [Markers.told, List.map_append, List.any_append, Bool.or_eq_true] at hi gi ⊢
    exact Or.imp hi gi
  say := by
    rw [List.map_append, List.map_append, Meaning.all_append, Meaning.all_append]
    exact h.say.andThen g.say

/-- One more attribute that says nothing itself can only mark the item. -/
theorem HeldMoved.extra {as bs : List (Node × Meaning)} (h : HeldMoved as bs) (a : Node) :
    HeldMoved as (bs ++ [(a, .nothing)]) := by
  have ha : HeldMoved [] [(a, .nothing)] :=
    ⟨(fun hn => by cases hn), (fun hn => by cases hn), Meaning.moved_nothing⟩
  simpa using h.append ha

structure AttributeMoved (a b : Node × Meaning) : Prop where
  word : Attribute.word b.1 = Attribute.word a.1
  marksTests : Attribute.marksTests b.1 = Attribute.marksTests a.1
  say : a.2.Moved b.2

theorem heldMoved_of_forall₂ {as bs : List (Node × Meaning)}
    (h : List.Forall₂ AttributeMoved as bs) : HeldMoved as bs := by
  induction h with
  | nil => exact heldMoved_nil
  | @cons a b as bs hab _ ih =>
    have hone : HeldMoved [a] [b] := by
      refine ⟨?_, ?_, hab.say.andThen Meaning.moved_nothing⟩
      · simp only [Markers.told, List.map_cons, List.map_nil, hab.word]
        exact id
      · simp only [Markers.told, List.map_cons, List.map_nil, List.any_cons, hab.marksTests]
        exact id
    exact hone.append ih

structure Part.Moved (p q : Part) : Prop where
  node : Marked p.node q.node
  alone : p.alone.Moved q.alone
  asPath : p.asPath.Moved q.asPath
  asUse : p.asUse.Moved q.asUse
  attributes : p.node.kind = .attributeItem → List.Forall₂ AttributeMoved p.attributes q.attributes

structure RowMoved (kind : Kind) (ps qs : List Part) : Prop where
  named : (named ps Part.alone).Moved (named qs Part.alone)
  each : kind.holdsItems = false → List.Forall₂ Part.Moved ps qs

section Rows

variable {kind : Kind} {ps qs : List Part}

theorem rowMoved_nil : RowMoved kind [] [] := ⟨Meaning.moved_nothing, fun _ => .nil⟩

theorem RowMoved.cons {p q : Part} (hp : p.Moved q) (h : RowMoved kind ps qs) :
    RowMoved kind (p :: ps) (q :: qs) where
  named := by
    rw [named_cons, named_cons, hp.node.named_eq]
    split
    · exact hp.alone.andThen h.named
    · exact h.named
  each := fun hk => .cons hp (h.each hk)

theorem RowMoved.mark {q : Part} (hk : kind.holdsItems = true) (hq : q.alone = .nothing)
    (h : RowMoved kind ps qs) : RowMoved kind ps (q :: qs) where
  named := by
    rw [named_cons, hq, Meaning.nothing_andThen, ite_self]
    exact h.named
  each := fun hn => by
    rw [hk] at hn
    cases hn

theorem moved_inField {read say : Part → Meaning} (name : String)
    (hr : ∀ p q : Part, p.Moved q → (read p).Moved (say q)) (h : List.Forall₂ Part.Moved ps qs) :
    (inField ps name read).Moved (inField qs name say) := by
  induction h with
  | nil => exact Meaning.moved_nothing
  | cons hp _ ih =>
    rw [inField_cons, inField_cons, hp.node.label_eq]
    split
    · exact hr _ _ hp
    · exact ih

theorem moved_firstNamed (h : List.Forall₂ Part.Moved ps qs) :
    (firstNamed ps).Moved (firstNamed qs) := by
  induction h with
  | nil => exact Meaning.moved_nothing
  | cons hp _ ih =>
    rw [firstNamed_cons, firstNamed_cons, hp.node.named_eq]
    split
    · exact hp.alone
    · exact ih

theorem moved_named_asUse (h : List.Forall₂ Part.Moved ps qs) :
    (named ps Part.asUse).Moved (named qs Part.asUse) := by
  induction h with
  | nil => exact Meaning.moved_nothing
  | cons hp _ ih =>
    rw [named_cons, named_cons, hp.node.named_eq]
    split
    · exact hp.asUse.andThen ih
    · exact ih

theorem moved_attributesOf (h : List.Forall₂ Part.Moved ps qs) :
    List.Forall₂ AttributeMoved (attributesOf ps) (attributesOf qs) := by
  induction h with
  | nil => exact .nil
  | cons hp _ ih =>
    rw [attributesOf_cons, attributesOf_cons, hp.node.named_eq, hp.node.kind_eq]
    split
    · rename_i ha
      obtain ⟨-, hk⟩ := Bool.and_eq_true_iff.mp ha
      have hk := of_decide_eq_true hk
      exact .cons ⟨Attribute.word_marked hp.node hk, Attribute.marksTests_marked hp.node hk,
        hp.alone⟩ ih
    · exact ih

theorem moved_body {as bs : List (Node × Meaning)} (hh : HeldMoved as bs)
    (h : RowMoved kind ps qs) : (body as ps).Moved (body bs qs) :=
  hh.say.andThen h.named

end Rows

section OfParts

variable {n m : Node} {parts more : List Part} (hn : Marked n m) (hr : RowMoved n.kind parts more)

include hn hr

theorem moved_useTree : (useTree n parts).Moved (useTree m more) := by
  unfold useTree
  rw [hn.kind_eq]
  split
  · have hb : bring (some m) = bring (some n) := bring_congr (congrArg some hn.label_eq)
    rw [hb]
    exact moved_bring _
  · rw [usePath_marked hn]
    unfold usePath
    cases n.lastSegment? with
    | none => exact Meaning.moved_nothing
    | some segment =>
      simp only [Option.elim_some]
      split
      · exact Meaning.moved_nothing
      · exact Meaning.moved_bring _
  · rename_i hk
    have hk : n.kind.holdsItems = false := by rw [hk]; rfl
    rw [elim_congr (hn.child? hk refer_last_marked "path"),
      bring_congr (hn.child? hk (fun _ _ => Marked.label_eq) "alias")]
    refine Meaning.Moved.andThen ?_ (moved_bring _)
    cases n.child? "path" with
    | none => exact Meaning.moved_nothing
    | some path => exact moved_refer _ _
  · rename_i hk
    have hk : n.kind.holdsItems = false := by rw [hk]; rfl
    rw [useSelf_marked hn hk]
    refine Meaning.Moved.andThen ?_ (moved_inField "list" (fun _ _ hp => hp.asUse) (hr.each hk))
    unfold useSelf
    split
    · split
      · exact moved_bring _
      · exact Meaning.moved_nothing
    · exact Meaning.moved_nothing
  · rename_i hk
    exact moved_named_asUse (hr.each (by rw [hk]; rfl))
  · exact Meaning.moved_nothing

theorem moved_asPath {itself other : Meaning} (hi : itself.Moved other) :
    (asPath n parts itself).Moved (asPath m more other) := by
  unfold asPath
  rw [hn.kind_eq]
  split
  · exact Meaning.moved_nothing
  · split
    · rename_i hk
      have hk := Node.holdsItems_of_isScopedPath hk
      exact moved_inField "path" (fun _ _ hp => hp.asPath) (hr.each hk)
    · split
      · rename_i hk
        have hk : n.kind.holdsItems = false := by rw [hk]; rfl
        exact (moved_inField "type" (fun _ _ hp => hp.asPath) (hr.each hk)).andThen
          (moved_inField "type_arguments" (fun _ _ hp => hp.alone) (hr.each hk))
      · exact hi

theorem moved_path (hk : n.kind.holdsItems = false) :
    ((pathRoot n.segments).andThen (inField parts "path" Part.asPath)).Moved
      ((pathRoot m.segments).andThen (inField more "path" Part.asPath)) := by
  rw [pathRoot_marked hn]
  refine Meaning.Moved.andThen ?_ (moved_inField "path" (fun _ _ hp => hp.asPath) (hr.each hk))
  unfold pathRoot
  split
  · exact moved_refer _ _
  · exact Meaning.moved_nothing

variable {above : List Kind} {held others : List (Node × Meaning)} {after behind : List Node}
  (hh : HeldMoved held others) (ho : Node.isOwned above behind = Node.isOwned above after)

include hh ho

/-- By cases on the construct: a part that every build reads may be one for tests alone in the
marked tree, and all else is as it was. -/
theorem moved_alone :
    (alone above held after n parts).Moved (alone above others behind m more) := by
  unfold alone
  rw [hn.kind_eq]
  split
  · rename_i hk
    refine moved_inField "argument" (fun p q hp => ?_) (hr.each (by rw [hk]; rfl))
    rw [useRoot_marked hp.node]
    refine Meaning.Moved.andThen ?_ hp.asUse
    unfold useRoot
    cases usePath? p.node with
    | none => exact Meaning.moved_nothing
    | some path => exact moved_refer _ _
  · rename_i hk
    have hname : ∀ n m : Node, Marked n m → refer (some m) m = refer (some n) n :=
      fun n m hn => refer_congr (congrArg some hn.label_eq) hn.line_eq
    rw [elim_congr (hn.child? (by rw [hk]; rfl) hname "name")]
    cases n.child? "name" with
    | none => exact Meaning.moved_nothing
    | some name => exact moved_refer (some name) name
  · rename_i hk
    exact moved_path hn hr (by rw [hk]; rfl)
  · rename_i hk
    exact moved_path hn hr (by rw [hk]; rfl)
  · rename_i hk
    exact moved_firstNamed (hr.each (by rw [hk]; rfl))
  · unfold Node.isOwned at ho
    rw [ho]
    split
    · exact Meaning.moved_nothing
    · exact hr.named
  · exact hr.named.enclosed id
  · rename_i hk
    rw [bring_congr (hn.child? (by rw [hk]; rfl) (fun _ _ => Marked.label_eq) "name")]
    exact (moved_bring _).andThen ((moved_body hh hr).enclosed hh.isCfgTest)
  · rename_i hk
    rw [hn.child? (by rw [hk]; rfl) (fun _ _ => Marked.word_eq) "name"]
    split
    · exact (moved_body hh hr).freeFunction _ hh.isTest
    · exact hr.named
  · exact hr.named

theorem Part.moved_ofParts :
    (Part.ofParts above held after n parts).Moved (.ofParts above others behind m more) where
  node := hn
  alone := moved_alone hn hr hh ho
  asPath := moved_asPath hn hr (moved_alone hn hr hh ho)
  asUse := moved_useTree hn hr
  attributes := fun hk => moved_attributesOf (hr.each (by rw [show n.kind = _ from hk]; rfl))

end OfParts

theorem HeldMoved.after {held others : List (Node × Meaning)} (hh : HeldMoved held others)
    {p q : Part} (hp : p.Moved q) : HeldMoved (heldAfter held p) (heldAfter others q) := by
  unfold heldAfter
  rw [hp.node.named_eq, hp.node.kind_eq]
  split
  · exact hh
  · split
    · rename_i hk
      exact hh.append (heldMoved_of_forall₂ (List.rel_reverse (hp.attributes hk)))
    · exact heldMoved_nil

/-- Where only silent nodes are named, nothing is said. -/
theorem named_partsOf_eq_nothing {above : List Kind} : ∀ {ns : List Node}
    {held : List (Node × Meaning)},
    (∀ n ∈ ns, n.named = true → ∀ held after, (partOf above held after n).alone = .nothing) →
      named (partsOf above held ns) Part.alone = .nothing
  | [], _, _ => rfl
  | n :: ns, held, h => by
    have hs : named (partsOf above (heldAfter held (partOf above held ns n)) ns) Part.alone =
        .nothing :=
      named_partsOf_eq_nothing fun m hm => h m (List.mem_cons_of_mem _ hm)
    rw [partsOf, named_cons, node_partOf, hs]
    split
    · rename_i hn
      rw [h n List.mem_cons_self hn, Meaning.nothing_andThen]
    · rfl

theorem firstNamed_partsOf {above : List Kind} {path : Node} {rest : List Node} {say : Meaning}
    (hs : ∀ held after, (partOf above held after path).alone = say) : ∀ {ns : List Node}
    {held : List (Node × Meaning)}, ns.filter Node.named = path :: rest →
      firstNamed (partsOf above held ns) = say
  | [], _, h => by cases h
  | n :: ns, held, h => by
    rw [partsOf, firstNamed_cons, node_partOf]
    rw [List.filter_cons] at h
    split
    · rename_i hn
      rw [if_pos hn] at h
      rw [(List.cons.inj h).1]
      exact hs held ns
    · rename_i hn
      rw [if_neg hn] at h
      exact firstNamed_partsOf hs h

theorem attributesOf_partsOf {above : List Kind} {say : Node → Meaning} : ∀ {ns : List Node}
    {held : List (Node × Meaning)},
    (∀ n ∈ ns.filter Node.named, ∀ held after, (partOf above held after n).alone = say n) →
      attributesOf (partsOf above held ns) =
        ((ns.filter Node.named).filter (·.kind = .attributeBody)).map fun n => (n, say n)
  | [], _, _ => rfl
  | n :: ns, held, h => by
    rw [partsOf, attributesOf_cons, node_partOf]
    rw [List.filter_cons] at h ⊢
    cases hn : n.named with
    | false =>
      simp only [hn, Bool.false_eq_true, if_false, Bool.false_and, List.nil_append] at h ⊢
      exact attributesOf_partsOf h
    | true =>
      simp only [hn, if_true, Bool.true_and] at h ⊢
      rw [attributesOf_partsOf fun m hm => h m (List.mem_cons_of_mem _ hm),
        h n List.mem_cons_self, List.filter_cons]
      split <;> rfl

section Mark

variable {item : Kind} {mark : Node} (h : IsTestMark item mark)

include h

/-- A test mark names no crate. -/
theorem alone_markBody : ∃ a, mark.namedChildren = [a] ∧ a.kind = .attributeBody ∧
    ∀ above held after, (partOf above held after a).alone = .nothing := by
  obtain ⟨a, path, rest, ha, hk, hp, hi, hleaf, -⟩ := h.only
  refine ⟨a, ha, hk, fun above held after => ?_⟩
  rw [alone_partOf_attribute hk]
  refine firstNamed_partsOf (fun held after => ?_) hp
  obtain ⟨l, cs⟩ := path
  have hl : l.kind = .identifier := hi
  rw [Node.children_mk] at hleaf
  simp only [partOf, Part.ofParts, alone, Node.kind, Node.label_mk, hl, hleaf]
  rfl

theorem alone_mark (above : List Kind) (held : List (Node × Meaning)) (after : List Node) :
    (partOf above held after mark).alone = .nothing := by
  obtain ⟨a, ha, -, hs⟩ := alone_markBody h
  have hnamed : named (partsOf (mark.kind :: above) [] mark.children) Part.alone = .nothing := by
    refine named_partsOf_eq_nothing fun n hn hname held after => ?_
    have hm : n ∈ mark.namedChildren := List.mem_filter.mpr ⟨hn, hname⟩
    rw [ha] at hm
    rw [List.mem_singleton.mp hm]
    exact hs _ held after
  obtain ⟨l, cs⟩ := mark
  have hl : l.kind = .attributeItem := h.kind
  simp only [Node.kind, Node.label_mk, Node.children_mk, hl] at hnamed
  simp only [partOf, Part.ofParts, alone, Node.kind, Node.label_mk, hl, hnamed, ite_self]

/-- Behind a mark one more attribute is held. -/
theorem heldAfter_mark (above : List Kind) (held : List (Node × Meaning)) (after : List Node) :
    ∃ a, heldAfter held (partOf above held after mark) = held ++ [(a, .nothing)] := by
  obtain ⟨a, ha, hk, hs⟩ := alone_markBody h
  have hnamed : mark.children.filter Node.named = [a] := ha
  have hattributes : attributesOf (partsOf (mark.kind :: above) [] mark.children) =
      ((mark.children.filter Node.named).filter (·.kind = .attributeBody)).map
        fun n => (n, .nothing) := by
    refine attributesOf_partsOf fun n hn held after => ?_
    rw [hnamed] at hn
    rw [List.mem_singleton.mp hn]
    exact hs _ held after
  rw [hnamed, List.filter_cons_of_pos (by simp [hk])] at hattributes
  refine ⟨a, ?_⟩
  unfold heldAfter
  rw [node_partOf, attributes_partOf, hattributes, h.named, h.kind]
  rfl

end Mark

mutual
/-- By induction on the tree, together for a node and for a row of children: what the parts of a
tree mean, they mean in the marked tree, and some of it to tests alone. -/
theorem moved_partOf : ∀ {n m : Node}, Marked n m → ∀ {above : List Kind}
    {held others : List (Node × Meaning)} {after behind : List Node}, HeldMoved held others →
      Node.isOwned above behind = Node.isOwned above after →
        (partOf above held after n).Moved (partOf above others behind m)
  | .mk _ _, _, .mk h, _, _, _, _, _, hh, ho =>
    Part.moved_ofParts (.mk h) (moved_partsOf h heldMoved_nil) hh ho

theorem moved_partsOf : ∀ {kind : Kind} {ns ms : List Node}, MarkedRow kind ns ms →
    ∀ {above : List Kind} {held others : List (Node × Meaning)}, HeldMoved held others →
      RowMoved kind (partsOf above held ns) (partsOf above others ms)
  | _, [], _, .nil, _, _, _, _ => rowMoved_nil
  | _, _ :: _, _, .cons hn hs, above, _, _, hh =>
    have hp := moved_partOf hn hh (hs.isOwned above)
    .cons hp (moved_partsOf hs (hh.after hp))
  | _, _ :: ns, mark :: m :: ms, .mark hk hm hn hs, above, held, others, hh => by
    obtain ⟨a, ha⟩ := heldAfter_mark hm above others (m :: ms)
    have hp := moved_partOf hn (hh.extra a) (hs.isOwned above)
    rw [partsOf, partsOf, partsOf, ha]
    refine RowMoved.mark hk (alone_mark hm above others (m :: ms)) (.cons hp ?_)
    exact moved_partsOf hs ((hh.extra a).after hp)
end

end Lexical

section Sightings

variable {rs qs : List Record} (h : List.Forall₂ Record.Moved rs qs)

include h

theorem Record.exists_moved {r : Record} (hr : r ∈ rs) : ∃ q ∈ qs, r.Moved q := by
  induction h with
  | nil => cases hr
  | cons hm _ ih =>
    rcases List.mem_cons.mp hr with rfl | hr
    · exact ⟨_, List.mem_cons_self, hm⟩
    · obtain ⟨q, hq, hm⟩ := ih hr
      exact ⟨q, List.mem_cons_of_mem _ hq, hm⟩

theorem Record.exists_unmoved {q : Record} (hq : q ∈ qs) : ∃ r ∈ rs, r.Moved q := by
  induction h with
  | nil => cases hq
  | cons hm _ ih =>
    rcases List.mem_cons.mp hq with rfl | hq
    · exact ⟨_, List.mem_cons_self, hm⟩
    · obtain ⟨r, hr, hm⟩ := ih hq
      exact ⟨r, List.mem_cons_of_mem _ hr, hm⟩

end Sightings

/-- The second discovery has the names of the first, and no name for every build that the first had
not, and none for tests less. -/
structure Discovery.Moved (d e : Discovery) : Prop where
  normal : e.normal ⊆ d.normal
  testOnly : d.testOnly ⊆ e.testOnly
  kept : ∀ name, name ∈ d.normal → name ∈ e.normal ∨ name ∈ e.testOnly
  found : ∀ name, name ∈ e.testOnly → name ∈ d.normal ∨ name ∈ d.testOnly

namespace Discovery.Moved

variable {d e : Discovery} (h : d.Moved e)

include h

theorem union (name : String) :
    name ∈ e.normal ∨ name ∈ e.testOnly ↔ name ∈ d.normal ∨ name ∈ d.testOnly where
  mp hn := hn.elim (fun hn => .inl (h.normal hn)) (h.found name)
  mpr hn := hn.elim (h.kept name) fun hn => .inr (h.testOnly hn)

/-- A name that a usage reports is one that was found and that a crate can have. -/
theorem union_usage (name : String) :
    name ∈ (Usage.ofDiscovery e).normal ∨ name ∈ (Usage.ofDiscovery e).testOnly ↔
      name ∈ (Usage.ofDiscovery d).normal ∨ name ∈ (Usage.ofDiscovery d).testOnly := by
  have hreported : ∀ d : Discovery,
      name ∈ (Usage.ofDiscovery d).normal ∨ name ∈ (Usage.ofDiscovery d).testOnly ↔
        (name ∈ d.normal ∨ name ∈ d.testOnly) ∧ Usage.BeginsLowercase name := by
    intro d
    rw [Usage.mem_normal, Usage.mem_testOnly]
    tauto
  rw [hreported, hreported, h.union]

end Discovery.Moved

theorem Discovery.moved_ofSurvey {s t : Survey} {rs qs : List Record}
    (h : List.Forall₂ Record.Moved rs qs) (hs : s.ledger = ({} : Ledger).enterAll rs)
    (ht : t.ledger = ({} : Ledger).enterAll qs) :
    (Discovery.ofSurvey s).Moved (.ofSurvey t) := by
  have hms : ∀ build name, name ∈ s.ledger.names build ↔
      ∃ r ∈ rs, r.build = build ∧ r.name = name := by
    intro build name
    rw [hs, Ledger.mem_names_enterAll_empty]
  have hmt : ∀ build name, name ∈ t.ledger.names build ↔
      ∃ q ∈ qs, q.build = build ∧ q.name = name := by
    intro build name
    rw [ht, Ledger.mem_names_enterAll_empty]
  refine ⟨fun name hn => ?_, fun name hn => ?_, fun name hn => ?_, fun name hn => ?_⟩
  · obtain ⟨q, hq, hb, rfl⟩ := (hmt .normal name).mp hn
    obtain ⟨r, hr, hm⟩ := Record.exists_unmoved h hq
    refine (hms .normal q.name).mpr ⟨r, hr, ?_, hm.name.symm⟩
    cases hk : r.build with
    | normal => rfl
    | testOnly => rw [hm.build hk] at hb; cases hb
  · obtain ⟨r, hr, hb, rfl⟩ := (hms .testOnly name).mp hn
    obtain ⟨q, hq, hm⟩ := Record.exists_moved h hr
    exact (hmt .testOnly r.name).mpr ⟨q, hq, hm.build hb, hm.name⟩
  · obtain ⟨r, hr, -, rfl⟩ := (hms .normal name).mp hn
    obtain ⟨q, hq, hm⟩ := Record.exists_moved h hr
    cases hk : q.build with
    | normal => exact .inl ((hmt .normal r.name).mpr ⟨q, hq, hk, hm.name⟩)
    | testOnly => exact .inr ((hmt .testOnly r.name).mpr ⟨q, hq, hk, hm.name⟩)
  · obtain ⟨q, hq, -, rfl⟩ := (hmt .testOnly name).mp hn
    obtain ⟨r, hr, hm⟩ := Record.exists_unmoved h hq
    cases hk : r.build with
    | normal => exact .inl ((hms .normal q.name).mpr ⟨r, hr, hk, hm.name.symm⟩)
    | testOnly => exact .inr ((hms .testOnly q.name).mpr ⟨r, hr, hk, hm.name.symm⟩)

namespace Node

/-- Test marks only move crates to the tests: put before any modules and functions of a tree, they
leave what the tree names as a whole as it is, and so does the usage that is made of it; no crate
goes from the tests to every build. -/
theorem discover_marked {root marked : Node} (hm : root.Marked marked)
    (ht : ∀ m ∈ root.preorder, m.text.isSome = true) :
    ∃ d e, root.discover = .ok d ∧ marked.discover = .ok e ∧
      (∀ name, name ∈ e.normal ∨ name ∈ e.testOnly ↔ name ∈ d.normal ∨ name ∈ d.testOnly) ∧
      e.normal ⊆ d.normal ∧ d.testOnly ⊆ e.testOnly ∧
      (∀ name,
        name ∈ (Usage.ofDiscovery e).normal ∨ name ∈ (Usage.ofDiscovery e).testOnly ↔
          name ∈ (Usage.ofDiscovery d).normal ∨ name ∈ (Usage.ofDiscovery d).testOnly) := by
  have hl := legible_of_isSome ht
  obtain ⟨s, hs, hsl, -⟩ := discover_of_outline hl
  obtain ⟨t, hd, htl, -⟩ := discover_of_outline (hm.legible hl)
  rw [Lexical.meaning_outline hl] at hsl
  rw [Lexical.meaning_outline (hm.legible hl)] at htl
  have hmoved : root.reading.Moved marked.reading :=
    (Lexical.moved_partOf hm Lexical.heldMoved_nil rfl).alone {} {} [] (.refl {})
  have h := Discovery.moved_ofSurvey hmoved.emitted hsl htl
  exact ⟨_, _, hs, hd, h.union, h.normal, h.testOnly, h.union_usage⟩

/-- A marked module within a function takes `regex` along, and `rand` stays with every build, since
the function needs it as well. -/
theorem discover_marked_module :
    let module := worded .modItem none "" [
      worded .identifier (some "name") "checks" [],
      worded .declarationList (some "body") "" [
        twoSegments none "regex" "Regex", twoSegments none "rand" "random"]]
    let mark := worded .attributeItem none "" [
      worded .attributeBody none "" [
        worded .identifier none "cfg" [],
        worded .tokenTree (some "arguments") "" [
          worded .openParen none "(" [], worded .identifier none "test" [],
          worded .closeParen none ")" []]]]
    let label : Label := { kind := .sourceFile, text := some "" }
    let block : Label := { kind := .block, text := some "" }
    let before := [twoSegments none "rand" "Rng"]
    let root := mk label ([] ++ mk block (before ++ module :: []) :: [])
    let marked := mk label ([] ++ mk block (before ++ mark :: module :: []) :: [])
    IsTestMark module.kind mark ∧ root.Marked marked ∧
      (∀ m ∈ root.preorder, m.text.isSome = true) ∧
      ∃ d e, root.discover = .ok d ∧ marked.discover = .ok e ∧
        d.normal = ["rand", "regex"] ∧ d.testOnly = [] ∧
        e.normal = ["rand"] ∧ e.testOnly = ["regex", "rand"] ∧
        (Usage.ofDiscovery e).normal = ["rand"] ∧
        "regex" ∈ (Usage.ofDiscovery e).testOnly := by
  intro module mark label block before root marked
  have hmark : IsTestMark module.kind mark :=
    ⟨rfl, rfl, legible_of_isSome (by decide), _, _, _, rfl, rfl, rfl, rfl, rfl, .inl ⟨rfl, rfl⟩⟩
  have hm : root.Marked marked := (Marked.here rfl hmark before []).within label [] []
  have ht : ∀ m ∈ root.preorder, m.text.isSome = true := by decide
  obtain ⟨d, e, hd, he, -, -, -, husage⟩ := discover_marked hm ht
  have hroot : root.discover = .ok
      { normal := ["rand", "regex"], testOnly := [],
        records := [⟨"rand", .normal, some 1⟩, ⟨"regex", .normal, some 1⟩], hints := {} } := by rfl
  have hmarked : marked.discover = .ok
      { normal := ["rand"], testOnly := ["regex", "rand"],
        records := [⟨"rand", .normal, some 1⟩, ⟨"regex", .testOnly, some 1⟩,
          ⟨"rand", .testOnly, some 1⟩], hints := {} } := by rfl
  rw [hroot] at hd
  rw [hmarked] at he
  cases hd
  cases he
  have hn : (Usage.ofDiscovery
      { normal := ["rand"], testOnly := ["regex", "rand"],
        records := [⟨"rand", .normal, some 1⟩, ⟨"regex", .testOnly, some 1⟩,
          ⟨"rand", .testOnly, some 1⟩], hints := {} }).normal = ["rand"] := by cbv
  refine ⟨hmark, hm, ht, _, _, hroot, hmarked, rfl, rfl, rfl, rfl, hn, ?_⟩
  have hregex := (husage "regex").mpr (.inl (Usage.mem_normal.mpr
    ⟨by decide, (Usage.isCrateName_iff _).mp (by decide)⟩))
  rw [hn] at hregex
  exact hregex.resolve_left (by decide)

end Node
end CrateUsage
