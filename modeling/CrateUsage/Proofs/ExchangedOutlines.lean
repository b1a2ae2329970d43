import CrateUsage.Proofs.Exchange
import CrateUsage.Proofs.UseReading

namespace CrateUsage.Outline

open Node (Exchanged ExchangedRow Kept Admissible)

theorem read_of_mention {s t : Option Node} (h : t.map Node.mention = s.map Node.mention) :
    t.map Node.read = s.map Node.read := by
  have hread : ∀ s : Option Node, s.map Node.read = (s.map Node.mention).map Prod.fst := by
    intro s
    cases s <;> rfl
  rw [hread, hread s, h]

theorem useRoot_of_inert {n : Node} (h : n.kind.isInert = true) : useRoot n = [] := by
  unfold useRoot
  split <;> first | rfl | (rename_i hk; rw [hk] at h; cases h)

theorem useNames_of_inert {n : Node} (h : n.kind.isInert = true) : useNames n = [] := by
  rw [useNames_eq]
  split <;> first | rfl | (rename_i hk; rw [hk] at h; cases h)

def pathView (n : Node) : Int × List (Except Kind String × Int) := (n.line, n.segments.map Node.mention)

section Views

variable {n m : Node} (h : pathView m = pathView n)

include h

theorem firstSegment?_of_view : m.firstSegment?.map Node.read = n.firstSegment?.map Node.read := by
  have hs : m.segments.map Node.mention = n.segments.map Node.mention := congrArg Prod.snd h
  apply read_of_mention
  simp only [Node.firstSegment?, ← List.head?_map, hs]

theorem lastSegment?_of_view : m.lastSegment?.map Node.read = n.lastSegment?.map Node.read := by
  have hs : m.segments.map Node.mention = n.segments.map Node.mention := congrArg Prod.snd h
  apply read_of_mention
  simp only [Node.lastSegment?, ← List.getLast?_map, hs]

theorem referring_first_of_view : referring m.firstSegment? m = referring n.firstSegment? n :=
  referring_of_read (firstSegment?_of_view h) (congrArg Prod.fst h)

theorem referring_last_of_view : referring m.lastSegment? m = referring n.lastSegment? n :=
  referring_of_read (lastSegment?_of_view h) (congrArg Prod.fst h)

theorem declaring_last_of_view : declaring m.lastSegment? = declaring n.lastSegment? :=
  readingOf_of_read _ (lastSegment?_of_view h)

theorem pathHead_of_view : pathHead m.segments = pathHead n.segments := by
  have hpath : ∀ ss ts : List Node, ts.map Node.mention = ss.map Node.mention →
      pathHead ts = pathHead ss := by
    intro ss ts hst
    rcases ss with _ | ⟨first, _ | ⟨second, others⟩⟩ <;>
      rcases ts with _ | ⟨first', _ | ⟨second', others'⟩⟩ <;>
        simp only [List.map_cons, List.map_nil, reduceCtorEq, List.cons.injEq, and_true,
          and_false] at hst <;> try rfl
    simp only [Node.mention, Prod.mk.injEq] at hst
    simp only [pathHead, referring, readingOf, reading, hst.1.1, hst.1.2]
  exact hpath _ _ (congrArg Prod.snd h)

end Views

/-- What is said of a child hangs on no more than is seen of it. -/
theorem elim_of_view {α : Type} {view : Node → α} {say : Node → Outline} {s t : Option Node}
    (h : t.map view = s.map view) (hsay : ∀ n m, view m = view n → say m = say n) :
    t.elim [] say = s.elim [] say := by
  cases s <;> cases t <;> simp only [Option.map_none, Option.map_some, reduceCtorEq,
    Option.some.injEq] at h
  · rfl
  · exact hsay _ _ h

structure SameUse (n m : Node) : Prop where
  kind : m.kind = n.kind
  view : pathView m = pathView n
  read : n.label.isWord = true → m.read = n.read
  path : (m.child? "path").map pathView = (n.child? "path").map pathView
  renamed : (m.child? "alias").map Node.read = (n.child? "alias").map Node.read
  first : n.kind = .useWildcard →
    m.namedChildren.head?.map pathView = n.namedChildren.head?.map pathView
  hasSelf : n.kind = .scopedUseList →
    (m.child? "list").map Node.hasSelf = (n.child? "list").map Node.hasSelf

namespace SameUse

variable {n m : Node} (h : SameUse n m)

include h

theorem useRoot_eq : useRoot m = useRoot n := by
  have hpath := elim_of_view h.path fun _ _ => referring_first_of_view
  simp only [useRoot, referringFirst_eq, h.kind]
  split
  · exact referring_first_of_view h.view
  · exact referring_first_of_view h.view
  · exact hpath
  · exact hpath
  · rename_i hk
    exact elim_of_view (h.first hk) fun _ _ => referring_first_of_view
  · rfl

/-- A group brings the last segment of its path if it has the member `self`. -/
theorem elim_declaringGroup_eq (hk : n.kind = .scopedUseList) (names : Outline) :
    ((m.child? "list").elim [] fun items =>
      ((m.child? "path").elim [] fun path => declaringGroup path items) ++ names) =
    (n.child? "list").elim [] fun items =>
      ((n.child? "path").elim [] fun path => declaringGroup path items) ++ names := by
  have hgroup : ∀ n : Node, ((n.child? "list").elim [] fun items =>
      ((n.child? "path").elim [] fun path => declaringGroup path items) ++ names) =
      ((n.child? "list").map Node.hasSelf).elim [] fun has =>
        ((n.child? "path").elim [] fun path =>
          if has then declaring path.lastSegment? else []) ++ names := by
    intro n
    cases n.child? "list" <;> cases n.child? "path" <;> rfl
  rw [hgroup, hgroup n, h.hasSelf hk]
  congr 1
  funext has
  congr 1
  refine elim_of_view h.path fun _ _ hv => ?_
  rw [declaring_last_of_view hv]

/-- By cases on the use tree: it says the same if the use trees in it do. -/
theorem useNames_eq_of (hat : useNamesAt "list" m.children = useNamesAt "list" n.children)
    (hof : useNamesOf m.children = useNamesOf n.children) : useNames m = useNames n := by
  rw [useNames_eq, useNames_eq n, h.kind]
  split
  · rename_i hk
    have hw : n.label.isWord = true := by
      have hkind : n.label.kind = .identifier := hk
      simp [Label.isWord, hkind, Kind.isSegment]
    exact readingOf_of_read _ (congrArg some (h.read hw))
  · exact declaringLast_of_read (lastSegment?_of_view h.view)
  · rw [elim_of_view h.path fun _ _ => referring_last_of_view]
    exact congrArg _ (readingOf_of_read _ h.renamed)
  · rename_i hk
    rw [hat]
    exact h.elim_declaringGroup_eq hk _
  · exact hof
  · rfl

end SameUse

/-- All that the reading of a node looks at, beside what its children say and where it stands, each
part of it where the kind of the node has it looked at. -/
structure SameHead (n m : Node) : Prop where
  kind : m.kind = n.kind
  path : n.kind.isScopedPath = true → pathHead m.segments = pathHead n.segments
  argument : n.kind = .useDeclaration →
    (m.child? "argument").elim [] sayingUse = (n.child? "argument").elim [] sayingUse
  name : n.kind = .externCrateDeclaration ∨ n.kind = .modItem ∨ n.kind = .functionItem →
    (m.child? "name").map Node.mention = (n.child? "name").map Node.mention

section UseTrees

variable {swap : Bool → Node → Node → Prop} (hswap : Admissible swap)

include hswap

theorem pathView_exchanged {looked : Bool} {n m : Node} (h : Exchanged swap looked n m) :
    pathView m = pathView n := by
  rw [pathView, pathView, h.line_eq hswap, h.segments hswap]

theorem sameUse_exchanged {n m : Node} (h : Kept swap n m) : SameUse n m where
  kind := h.kind_eq
  view := by
    obtain ⟨l, cs⟩ := n
    obtain ⟨k, ds⟩ := m
    have hwithin : Exchanged swap false (.mk l cs) (.mk k ds) := .within h.essence h.row
    exact pathView_exchanged hswap hwithin
  read := by
    obtain ⟨l, cs⟩ := n
    obtain ⟨k, ds⟩ := m
    exact fun hw => Node.read_of_essence h.essence hw cs ds
  path := h.child? hswap "path" fun _ _ _ hcd => pathView_exchanged hswap hcd
  renamed := h.read_child? hswap "alias" (.inr rfl)
  first := fun _ => h.firstNamed hswap fun _ _ _ hcd => pathView_exchanged hswap hcd
  hasSelf := fun hk => h.child? hswap "list" fun c d hc hcd => by
    have hlooks : n.looksInto c.label = true := by
      simp [Node.looksInto, hk, hc]
    rw [hlooks] at hcd
    exact hcd.hasSelf_eq hswap

theorem useRoot_exchanged {looked : Bool} {n m : Node} (h : Exchanged swap looked n m) :
    useRoot m = useRoot n := by
  cases h with
  | here h =>
    rw [useRoot_of_inert (hswap.outside h).inert, useRoot_of_inert (hswap.outside h).inertToo]
  | @within _ l k cs ds hl hrow =>
    have hkept : Kept swap (.mk l cs) (.mk k ds) := ⟨hl, hrow⟩
    exact (sameUse_exchanged hswap hkept).useRoot_eq

mutual
/-- By induction on the use tree: no part of it is exchanged. -/
theorem useNames_exchanged : ∀ {looked : Bool} {n m : Node}, Exchanged swap looked n m →
    useNames m = useNames n
  | _, _, _, .here h => by
    rw [useNames_of_inert (hswap.outside h).inert, useNames_of_inert (hswap.outside h).inertToo]
  | _, .mk l cs, .mk k ds, .within hl h => by
    have hkept : Kept swap (.mk l cs) (.mk k ds) := ⟨hl, h⟩
    exact (sameUse_exchanged hswap hkept).useNames_eq_of (useNamesAt_exchanged h "list")
      (useNamesOf_exchanged h)

theorem useNamesOf_exchanged : ∀ {looks : Label → Bool} {ns ms : List Node},
    ExchangedRow swap looks ns ms → useNamesOf ms = useNamesOf ns
  | _, [], _, .nil => rfl
  | _, n :: ns, m :: ms, .cons hn hs => by
    simp only [useNamesOf, hn.named_eq hswap, useNames_exchanged hn, useNamesOf_exchanged hs]

theorem useNamesAt_exchanged : ∀ {looks : Label → Bool} {ns ms : List Node},
    ExchangedRow swap looks ns ms → ∀ field, useNamesAt field ms = useNamesAt field ns
  | _, [], _, .nil, _ => rfl
  | _, n :: ns, m :: ms, .cons hn hs, field => by
    simp only [useNamesAt, hn.field_eq hswap, useNames_exchanged hn, useNamesAt_exchanged hs field]
end

theorem sayingUse_exchanged {looked : Bool} {n m : Node} (h : Exchanged swap looked n m) :
    sayingUse m = sayingUse n := by
  simp only [sayingUse, useRoot_exchanged hswap h, useNames_exchanged hswap h]

theorem sameHead_exchanged {n m : Node} (h : Kept swap n m) : SameHead n m where
  kind := h.kind_eq
  path _ := pathHead_of_view (sameUse_exchanged hswap h).view
  argument _ :=
    elim_congr (h.child? hswap "argument" fun _ _ _ hcd => sayingUse_exchanged hswap hcd)
  name _ := h.child? hswap "name" fun c d hc hcd => by
    have hw : c.label.isWord = true := by simp [Label.isWord, hc]
    rw [Node.mention, Node.mention, hcd.read_eq hswap hw, hcd.line_eq hswap]

end UseTrees

section Exchanged

variable {R : Outline → Outline → Prop}

structure AttributeExchanged (R : Outline → Outline → Prop) (a b : Node × Outline) : Prop where
  name : Attribute.name b.1 = Attribute.name a.1
  isCfgTest : Attribute.isCfgTest b.1 = Attribute.isCfgTest a.1
  outline : R a.2 b.2

structure PlaceExchanged (R : Outline → Outline → Prop) (p q : Place) : Prop where
  above : q.above = p.above
  attributes : List.Forall₂ (AttributeExchanged R) p.attributes q.attributes

namespace PlaceExchanged

variable {p q : Place}

theorem below (h : PlaceExchanged R p q) (kind : Kind) :
    PlaceExchanged R (p.below kind) (q.below kind) where
  above := by simp only [Place.below, h.above]
  attributes := .nil

theorem markers_eq (h : PlaceExchanged R p q) : markers q = markers p := by
  refine Markers.ofAttributes_congr ?_
  rw [List.forall₂_map_left_iff, List.forall₂_map_right_iff]
  exact h.attributes.imp fun _ _ hab => ⟨hab.name, hab.isCfgTest⟩

theorem attributesSay (h : PlaceExchanged R p q) (hR : Compatible R) :
    R (attributesSay p) (Outline.attributesSay q) := by
  have hall : ∀ {as bs : List (Node × Outline)}, List.Forall₂ (AttributeExchanged R) as bs →
      R (as.flatMap (·.2)) (bs.flatMap (·.2)) := by
    intro as bs h
    induction h with
    | nil => exact hR.refl []
    | cons hab _ ih => exact hR.append hab.outline ih
  exact hall h.attributes

theorem behind (h : PlaceExchanged R p q) {n m : Node} (hnamed : m.named = n.named)
    (hcomment : m.kind.isComment = n.kind.isComment)
    (hitem : m.kind = .attributeItem ↔ n.kind = .attributeItem)
    (ha : n.kind = .attributeItem → List.Forall₂ (AttributeExchanged R)
      (ofAttributes p.above n.children) (ofAttributes q.above m.children)) :
    PlaceExchanged R (p.behind n) (q.behind m) where
  above := by rw [Place.above_behind, Place.above_behind, h.above]
  attributes := by
    unfold Place.behind
    rw [hnamed, hcomment]
    simp only [hitem]
    split
    · exact h.attributes
    · split
      · rename_i hk
        exact List.rel_append h.attributes (List.rel_reverse (ha hk))
      · exact .nil

end PlaceExchanged

/-- By cases on the construct: nodes with the same head say related things where their children
do. -/
theorem Compatible.saying_of_sameHead (hR : Compatible R) {n m : Node} (h : SameHead n m)
    (asPath : Bool) {p q : Place} (hp : PlaceExchanged R p q) {after rest : List Node}
    (ho : Node.isOwned p.above rest = Node.isOwned p.above after)
    {children more : Choice → Outline}
    (hc : ∀ choice, (choice = .first → n.kind = .attributeBody) →
      R (children choice) (more choice)) :
    R (Outline.saying sayingUse asPath p after n children)
      (Outline.saying sayingUse asPath q rest m more) := by
  have hevery : R (children .every) (more .every) := hc .every (fun he => by cases he)
  have hfield : ∀ name, R (children (.field name)) (more (.field name)) :=
    fun name => hc (.field name) (fun he => by cases he)
  have hpath : ∀ name, R (children (.pathField name)) (more (.pathField name)) :=
    fun name => hc (.pathField name) (fun he => by cases he)
  have hbody := hR.append (hp.attributesSay hR) hevery
  unfold Node.isOwned at ho
  unfold Outline.saying
  rw [h.kind, hp.above, hp.markers_eq, ho]
  split
  · exact hR.refl []
  split
  · exact hpath _
  split
  · exact hR.append (hpath _) (hfield _)
  split
  · rename_i hk
    rw [h.argument hk]
    exact hR.refl _
  · rename_i hk
    have hcrate : ((m.child? "name").elim [] fun name => referring (some name) name) =
        (n.child? "name").elim [] fun name => referring (some name) name := by
      refine elim_of_view (h.name (.inl hk)) fun c d hcd => ?_
      have hread : d.read = c.read := congrArg Prod.fst hcd
      exact referring_of_read (congrArg some hread) (congrArg Prod.snd hcd)
    rw [hcrate]
    exact hR.refl _
  · rename_i hk
    rw [h.path (by rw [hk]; rfl)]
    exact hR.append (hR.refl _) (hpath _)
  · rename_i hk
    rw [h.path (by rw [hk]; rfl)]
    exact hR.append (hR.refl _) (hpath _)
  · rename_i hk
    exact hc .first fun _ => hk
  · split
    · exact hR.refl []
    · exact hevery
  · exact hR.scope false hevery
  · rename_i hk
    have hname : declaring (m.child? "name") = declaring (n.child? "name") :=
      readingOf_of_read _ (read_of_mention (h.name (.inr (.inl hk))))
    split
    · exact hR.refl _
    · rw [hname]
      exact hR.append (hR.refl _) (hR.scope _ hbody)
  · rename_i hk
    rw [read_of_mention (h.name (.inr (.inr hk)))]
    split
    · exact hR.function _ _ hbody
    · exact hevery
  · exact hevery

def SaysRelated (R : Outline → Outline → Prop) (swap : Bool → Node → Node → Prop) : Prop :=
  ∀ looked n m, swap looked n m → ∀ asPath {p q : Place}, PlaceExchanged R p q →
    ∀ after rest, R (ofNode asPath p after n) (ofNode asPath q rest m)

end Exchanged

mutual
/-- By induction on the exchange, together for a node, a row of children and a row of attributes:
if the nodes that are exchanged say related things, then so do the trees. -/
theorem exchanged_ofNode {swap : Bool → Node → Node → Prop} {R : Outline → Outline → Prop}
    (hswap : Admissible swap) (hR : Compatible R) (hsaying : SaysRelated R swap) :
    ∀ {looked : Bool} {n m : Node}, Exchanged swap looked n m →
      ∀ asPath {p q : Place}, PlaceExchanged R p q → ∀ {after rest : List Node},
        Node.isOwned p.above rest = Node.isOwned p.above after →
          R (ofNode asPath p after n) (ofNode asPath q rest m)
  | _, _, _, .here h, asPath, _, _, hp, after, rest, _ => hsaying _ _ _ h asPath hp after rest
  | _, .mk l cs, .mk k ds, .within hl h, asPath, p, q, hp, after, rest, ho => by
    have hkept : Kept swap (.mk l cs) (.mk k ds) := ⟨hl, h⟩
    rw [ofNode_eq_saying, ofNode_eq_saying, hkept.kind_eq]
    exact hR.saying_of_sameHead (sameHead_exchanged hswap hkept) asPath hp ho fun choice _ =>
      exchanged_ofChildren hswap hR hsaying h choice (hp.below l.kind)

theorem exchanged_ofChildren {swap : Bool → Node → Node → Prop} {R : Outline → Outline → Prop}
    (hswap : Admissible swap) (hR : Compatible R) (hsaying : SaysRelated R swap) :
    ∀ {looks : Label → Bool} {ns ms : List Node}, ExchangedRow swap looks ns ms →
      ∀ choice {p q : Place}, PlaceExchanged R p q →
        R (ofChildren choice p ns) (ofChildren choice q ms)
  | _, [], _, .nil, _, _, _, _ => hR.refl []
  | _, n :: ns, m :: ms, .cons hn hs, choice, p, q, hp => by
    have ho := hs.isOwned hswap p.above
    have hsaid := exchanged_ofNode hswap hR hsaying hn choice.asPath hp ho
    have hbehind : PlaceExchanged R (p.behind n) (q.behind m) := by
      refine hp.behind (hn.named_eq hswap) (hn.isComment_eq hswap)
        (hn.kind_iff hswap .attributeItem rfl) fun hk => ?_
      rw [hp.above]
      exact match hn with
        | .here h => by
          have hi := (hswap.outside h).inert
          rw [hk] at hi
          cases hi
        | .within _ h => exchanged_ofAttributes hswap hR hsaying h p.above
    have hrest := exchanged_ofChildren hswap hR hsaying hs choice hbehind
    by_cases he : choice = .every
    · subst he
      rw [ofChildren_every_cons, ofChildren_every_cons, hn.named_eq hswap]
      refine hR.append ?_ hrest
      split
      · exact hsaid
      · exact hR.refl []
    · rw [ofChildren_cons he, ofChildren_cons he, hn.takes_eq hswap]
      split
      · exact hsaid
      · exact hrest

theorem exchanged_ofAttributes {swap : Bool → Node → Node → Prop} {R : Outline → Outline → Prop}
    (hswap : Admissible swap) (hR : Compatible R) (hsaying : SaysRelated R swap) :
    ∀ {looks : Label → Bool} {ns ms : List Node}, ExchangedRow swap looks ns ms → ∀ above,
      List.Forall₂ (AttributeExchanged R) (ofAttributes above ns) (ofAttributes above ms)
  | _, [], _, .nil, _ => .nil
  | _, n :: ns, m :: ms, .cons hn hs, above => by
    rw [ofAttributes_cons, ofAttributes_cons, hn.named_eq hswap]
    simp only [hn.kind_iff hswap .attributeBody rfl]
    refine List.rel_append ?_ (exchanged_ofAttributes hswap hR hsaying hs above)
    split
    · rename_i hb
      have hk : n.kind = .attributeBody := of_decide_eq_true (Bool.and_eq_true_iff.mp hb).2
      have hkept := hn.kept hswap (by rw [hk]; rfl)
      have hplace : PlaceExchanged R ⟨n.kind :: .attributeItem :: above, []⟩
          ⟨m.kind :: .attributeItem :: above, []⟩ := ⟨by rw [hkept.kind_eq], .nil⟩
      have hfirst : R (ofChildren .first ⟨n.kind :: .attributeItem :: above, []⟩ n.children)
          (ofChildren .first ⟨m.kind :: .attributeItem :: above, []⟩ m.children) :=
        match hn with
        | .here h => by
          have hi := (hswap.outside h).inert
          rw [hk] at hi
          cases hi
        | .within _ h => exchanged_ofChildren hswap hR hsaying h .first hplace
      exact .cons ⟨Attribute.name_exchanged hswap hkept,
        Attribute.isCfgTest_exchanged hswap hkept hk, hfirst⟩ .nil
    · exact .nil
end

end CrateUsage.Outline

/-- Trees of which nodes are exchanged that say related things say related things. -/
theorem CrateUsage.Node.Exchanged.outline {swap : Bool → Node → Node → Prop}
    (hswap : Node.Admissible swap) {R : Outline → Outline → Prop} (hR : Outline.Compatible R)
    (hsaying : Outline.SaysRelated R swap) {looked : Bool} {a b : Node}
    (h : Node.Exchanged swap looked a b) : R a.outline b.outline :=
  Outline.exchanged_ofNode hswap hR hsaying h false ⟨rfl, .nil⟩ rfl
