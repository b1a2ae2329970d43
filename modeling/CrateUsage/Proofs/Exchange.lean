import CrateUsage.Proofs.Surface

namespace CrateUsage

def Kind.isInert : Kind → Bool
  | .useDeclaration | .externCrateDeclaration | .tokenTree => true
  | _ => false

def Label.isWord (l : Label) : Bool :=
  l.kind.isSegment || l.field == some "name" || l.field == some "alias"

/-- What is read of a label. The text of a whole construct is not, nor are columns and errors. -/
def Label.essence (l : Label) : Label where
  kind := l.kind
  named := l.named
  field := l.field
  row := l.row
  text := if l.isWord then l.text else none

namespace Label

variable {l k : Label} (h : k.essence = l.essence)

include h

theorem kind_of_essence : k.kind = l.kind := by
  have hkind := congrArg kind h
  exact hkind

theorem named_of_essence : k.named = l.named := by
  have hnamed := congrArg named h
  exact hnamed

theorem field_of_essence : k.field = l.field := by
  have hfield := congrArg field h
  exact hfield

theorem row_of_essence : k.row = l.row := by
  have hrow := congrArg row h
  exact hrow

theorem text_of_essence (hw : l.isWord = true) : k.text = l.text := by
  have hword : k.isWord = true := by
    unfold isWord at hw ⊢
    rw [kind_of_essence h, field_of_essence h]
    exact hw
  have htext := congrArg text h
  simp only [essence, hword, hw, if_true] at htext
  exact htext

end Label

namespace Node

/-- Whether a node looks at the children of a child: a group looks for `self`, and the attribute
`cfg` for `test`. -/
def looksInto (n : Node) (child : Label) : Bool :=
  (n.kind = .scopedUseList && child.field == some "list") ||
    (n.kind = .attributeBody && child.field == some "arguments" &&
      n.namedChildren.head?.any fun path => path.kind = .identifier && path.text = some "cfg")

mutual
/-- The second tree is the first with nodes exchanged as `swap` allows. That hangs on whether the
node above looks at the children of the node. -/
inductive Exchanged (swap : Bool → Node → Node → Prop) : Bool → Node → Node → Prop
  | here {looked : Bool} {n m : Node} (h : swap looked n m) : Exchanged swap looked n m
  | within {looked : Bool} {l k : Label} {cs ds : List Node} (hl : k.essence = l.essence)
      (h : ExchangedRow swap (Node.mk l cs).looksInto cs ds) :
      Exchanged swap looked (.mk l cs) (.mk k ds)

inductive ExchangedRow (swap : Bool → Node → Node → Prop) :
    (Label → Bool) → List Node → List Node → Prop
  | nil {looks : Label → Bool} : ExchangedRow swap looks [] []
  | cons {looks : Label → Bool} {n m : Node} {ns ms : List Node}
      (hn : Exchanged swap (looks n.label) n m) (hs : ExchangedRow swap looks ns ms) :
      ExchangedRow swap looks (n :: ns) (m :: ms)
end

mutual
theorem Exchanged.refl (swap : Bool → Node → Node → Prop) (looked : Bool) :
    ∀ n : Node, Exchanged swap looked n n
  | .mk l cs => .within rfl (ExchangedRow.refl swap (Node.mk l cs).looksInto cs)

theorem ExchangedRow.refl (swap : Bool → Node → Node → Prop) (looks : Label → Bool) :
    ∀ ns : List Node, ExchangedRow swap looks ns ns
  | [] => .nil
  | n :: ns => .cons (Exchanged.refl swap (looks n.label) n) (ExchangedRow.refl swap looks ns)
end

structure Kept (swap : Bool → Node → Node → Prop) (n m : Node) : Prop where
  essence : m.label.essence = n.label.essence
  row : ExchangedRow swap n.looksInto n.children m.children

def face (n : Node) : Option (Kind × Option (Except Kind String)) :=
  if n.kind.isInert then none else some (n.kind, if n.kind.isSegment then some n.read else none)

theorem face_eq_some {n : Node} {kind : Kind} {word : Option (Except Kind String)} :
    n.face = some (kind, word) ↔
      n.kind = kind ∧ kind.isInert = false ∧ (if kind.isSegment then some n.read else none) = word := by
  unfold face
  cases hi : n.kind.isInert with
  | true =>
    simp only [if_true, reduceCtorEq, false_iff, not_and]
    rintro rfl
    simp [hi]
  | false =>
    simp only [Bool.false_eq_true, if_false, Option.some.injEq, Prod.mk.injEq]
    constructor
    · rintro ⟨rfl, hw⟩
      exact ⟨rfl, hi, hw⟩
    · rintro ⟨rfl, -, hw⟩
      exact ⟨rfl, hw⟩

theorem kind_iff_of_face {n m : Node} (h : m.face = n.face) {kind : Kind}
    (hk : kind.isInert = false) : m.kind = kind ↔ n.kind = kind := by
  have hface : ∀ n : Node, n.kind = kind ↔
      ∃ word, n.face = some (kind, word) := by
    intro n
    simp only [face_eq_some, hk, true_and, exists_and_left, exists_eq', and_true]
  rw [hface, hface, h]

theorem read_of_face {n m : Node} (h : m.face = n.face) (hs : n.kind.isSegment = true) :
    m.read = n.read := by
  have hn : n.face = some (n.kind, some n.read) := by
    refine face_eq_some.mpr ⟨rfl, ?_, if_pos hs⟩
    cases hk : n.kind <;> rw [hk] at hs <;> first | rfl | cases hs
  obtain ⟨-, -, hm⟩ := face_eq_some.mp (h.trans hn)
  rw [if_pos hs] at hm
  exact Option.some.inj hm

structure Interchangeable (n m : Node) : Prop where
  inert : n.kind.isInert = true
  inertToo : m.kind.isInert = true
  named : m.named = n.named
  field : m.label.field = n.label.field
  line : m.line = n.line
  read : n.label.isWord = true → m.read = n.read

def hasSelf (n : Node) : Bool := n.namedChildren.any (·.kind = .selfWord)

/-- Only nodes are exchanged that the nodes around them do not tell apart, even if they look at the
children of them. -/
structure Admissible (swap : Bool → Node → Node → Prop) : Prop where
  outside : ∀ {looked n m}, swap looked n m → Interchangeable n m
  hasSelf : ∀ {n m}, swap true n m → m.hasSelf = n.hasSelf
  saysTest : ∀ {n m}, swap true n m →
    Attribute.saysTest (m.children.map label) = Attribute.saysTest (n.children.map label)

theorem read_of_essence {l k : Label} (h : k.essence = l.essence) (hw : l.isWord = true)
    (cs ds : List Node) : (Node.mk k ds).read = (Node.mk l cs).read := by
  simp only [read, text, kind, label_mk, Label.text_of_essence h hw, Label.kind_of_essence h]

theorem face_of_essence {l k : Label} (h : k.essence = l.essence) (cs ds : List Node) :
    (Node.mk k ds).face = (Node.mk l cs).face := by
  have hkind : (Node.mk k ds).kind = (Node.mk l cs).kind := Label.kind_of_essence h
  unfold face
  rw [hkind]
  split
  · rfl
  · split
    · rename_i hs
      have hw : l.isWord = true := by
        simp only [Label.isWord, Bool.or_eq_true]
        exact .inl (.inl hs)
      rw [read_of_essence h hw cs ds]
    · rfl

variable {swap : Bool → Node → Node → Prop} (hswap : Admissible swap)

section Node

variable {looked : Bool} {n m : Node} (h : Exchanged swap looked n m)

include h hswap

theorem Exchanged.named_eq : m.named = n.named := by
  cases h with
  | here h => exact (hswap.outside h).named
  | within hl _ => exact Label.named_of_essence hl

theorem Exchanged.field_eq : m.label.field = n.label.field := by
  cases h with
  | here h => exact (hswap.outside h).field
  | within hl _ => exact Label.field_of_essence hl

theorem Exchanged.line_eq : m.line = n.line := by
  cases h with
  | here h => exact (hswap.outside h).line
  | within hl _ => simp only [line, label_mk, Label.row_of_essence hl]

theorem Exchanged.read_eq (hw : n.label.isWord = true) : m.read = n.read := by
  cases h with
  | here h => exact (hswap.outside h).read hw
  | within hl _ => exact read_of_essence hl hw _ _

theorem Exchanged.face_eq : m.face = n.face := by
  cases h with
  | here h => rw [face, face, (hswap.outside h).inert, (hswap.outside h).inertToo]; rfl
  | within hl _ => exact face_of_essence hl _ _

/-- A node that is not inert stays, and only nodes below it are exchanged. -/
theorem Exchanged.kept (hk : n.kind.isInert = false) : Kept swap n m := by
  cases h with
  | here h =>
    rw [(hswap.outside h).inert] at hk
    cases hk
  | within hl h => exact ⟨hl, h⟩

theorem Exchanged.kind_iff (kind : Kind) (hk : kind.isInert = false) :
    m.kind = kind ↔ n.kind = kind :=
  kind_iff_of_face (h.face_eq hswap) hk

theorem Exchanged.isComment_eq : m.kind.isComment = n.kind.isComment := by
  have hcomment : ∀ kind : Kind, kind.isComment =
      (decide (kind = .lineComment) || decide (kind = .blockComment)) := by
    intro kind
    cases kind <;> rfl
  simp only [hcomment, h.kind_iff hswap .lineComment rfl,
    h.kind_iff hswap .blockComment rfl]

theorem Exchanged.takes_eq {choice : Outline.Choice} :
    choice.takes m.label = choice.takes n.label := by
  have hnamed : m.label.named = n.label.named := h.named_eq hswap
  cases choice <;> simp only [Outline.Choice.takes, hnamed, h.field_eq hswap]

end Node

section Row

variable {α : Type} {f : Node → α} {looks : Label → Bool} {ns ms : List Node}

include hswap

theorem ExchangedRow.find? (q : Bool → Option String → Bool)
    (hf : ∀ c d, q c.named c.label.field = true → Exchanged swap (looks c.label) c d → f d = f c) :
    ∀ {ns ms : List Node}, ExchangedRow swap looks ns ms →
      (ms.find? fun c => q c.named c.label.field).map f =
        (ns.find? fun c => q c.named c.label.field).map f
  | [], _, .nil => rfl
  | n :: ns, m :: ms, .cons hn hs => by
    rw [List.find?_cons, List.find?_cons, hn.named_eq hswap, hn.field_eq hswap]
    cases hq : q n.named n.label.field with
    | true => exact congrArg some (hf n m hq hn)
    | false => exact hs.find? q hf

omit hswap in
theorem ExchangedRow.map (hf : ∀ looked c d, Exchanged swap looked c d → f d = f c) :
    ∀ {ns ms : List Node}, ExchangedRow swap looks ns ms → ms.map f = ns.map f
  | [], _, .nil => rfl
  | n :: ns, m :: ms, .cons hn hs => by
    rw [List.map_cons, List.map_cons, hf _ n m hn, hs.map hf]

end Row

section Kept

variable {α : Type} {f : Node → α} {n m : Node} (h : Kept swap n m)

include hswap h

omit hswap in
theorem Kept.kind_eq : m.kind = n.kind := Label.kind_of_essence h.essence

theorem Kept.child? (field : String) (hf : ∀ c d, c.label.field = some field →
    Exchanged swap (n.looksInto c.label) c d → f d = f c) :
    (m.child? field).map f = (n.child? field).map f :=
  h.row.find? hswap (fun _ at_ => at_ == some field) fun c d hc => hf c d (eq_of_beq hc)

theorem Kept.firstNamed (hf : ∀ looked c d, Exchanged swap looked c d → f d = f c) :
    m.namedChildren.head?.map f = n.namedChildren.head?.map f := by
  unfold namedChildren
  rw [List.head?_filter, List.head?_filter]
  exact h.row.find? hswap (fun isNamed _ => isNamed) fun c d _ => hf _ c d

/-- A name is read of the same text. -/
theorem Kept.read_child? (field : String) (hfield : field = "name" ∨ field = "alias") :
    (m.child? field).map read = (n.child? field).map read := by
  refine h.child? hswap field fun c d hc hcd => hcd.read_eq hswap ?_
  unfold Label.isWord
  rcases hfield with rfl | rfl <;> simp [hc]

end Kept

def mention (n : Node) : Except Kind String × Int := (n.read, n.line)

theorem segments_of_inert {n : Node} (h : n.kind.isInert = true) : n.segments = [] := by
  rw [segments_eq]
  generalize n.kind = kind at h
  cases kind <;> first | rfl | cases h

section Segments

include hswap

mutual
/-- By induction on the path: no segment of it is exchanged. -/
theorem Exchanged.segments : ∀ {looked : Bool} {n m : Node}, Exchanged swap looked n m →
    m.segments.map mention = n.segments.map mention
  | _, _, _, .here h => by
    rw [segments_of_inert (hswap.outside h).inert, segments_of_inert (hswap.outside h).inertToo]
  | looked, .mk l cs, .mk k ds, .within hl h => by
    have hnode : Exchanged swap looked (.mk l cs) (.mk k ds) := .within hl h
    have hkept : Kept swap (.mk l cs) (.mk k ds) := ⟨hl, h⟩
    have hat := h.segmentsAt
    rw [segments_eq, segments_eq (Node.mk l cs), hkept.kind_eq]
    split
    · have hname : ((Node.mk k ds).child? "name").map mention =
          ((Node.mk l cs).child? "name").map mention := by
        refine hkept.child? hswap "name" fun c d hc hcd => ?_
        have hw : c.label.isWord = true := by simp [Label.isWord, hc]
        rw [mention, mention, hcd.read_eq hswap hw, hcd.line_eq hswap]
      rw [List.map_append, List.map_append, ← Option.toList_map, ← Option.toList_map, hname]
      exact congrArg (· ++ _) (hat "path")
    · split
      · exact hat "type"
      · split
        · rename_i hs
          have hw : (Node.mk l cs).label.isWord = true := by
            simp only [Label.isWord, Bool.or_eq_true]
            exact .inl (.inl hs)
          simp only [List.map_cons, List.map_nil, mention, hnode.read_eq hswap hw,
            hnode.line_eq hswap]
        · rfl

theorem ExchangedRow.segmentsAt : ∀ {looks : Label → Bool} {ns ms : List Node},
    ExchangedRow swap looks ns ms →
      ∀ field, (segmentsAt field ms).map mention = (segmentsAt field ns).map mention
  | _, [], _, .nil, _ => rfl
  | _, n :: ns, _, .cons hn hs, field => by
    simp only [Node.segmentsAt, hn.field_eq hswap]
    split
    · exact hn.segments
    · exact hs.segmentsAt field
end

theorem Exchanged.firstSegment? {looked : Bool} {n m : Node} (h : Exchanged swap looked n m) :
    m.firstSegment?.map mention = n.firstSegment?.map mention := by
  simp only [Node.firstSegment?, ← List.head?_map, h.segments hswap]

theorem Exchanged.lastSegment? {looked : Bool} {n m : Node} (h : Exchanged swap looked n m) :
    m.lastSegment?.map mention = n.lastSegment?.map mention := by
  simp only [Node.lastSegment?, ← List.getLast?_map, h.segments hswap]

end Segments

section Faces

variable {looks : Label → Bool} {ns ms : List Node}

include hswap

theorem ExchangedRow.faces (h : ExchangedRow swap looks ns ms) : ms.map face = ns.map face :=
  h.map fun _ _ _ hcd => hcd.face_eq hswap

theorem ExchangedRow.any_selfWord : ∀ {ns ms : List Node}, ExchangedRow swap looks ns ms →
    (ms.filter named).any (·.kind = .selfWord) = (ns.filter named).any (·.kind = .selfWord)
  | [], _, .nil => rfl
  | n :: ns, m :: ms, .cons hn hs => by
    have hrest := hs.any_selfWord
    simp only [List.any_filter] at hrest ⊢
    simp only [List.any_cons, hrest, hn.named_eq hswap, hn.kind_iff hswap .selfWord rfl]

theorem Exchanged.hasSelf_eq {n m : Node} (h : Exchanged swap true n m) :
    m.hasSelf = n.hasSelf := by
  cases h with
  | here h => exact hswap.hasSelf h
  | within _ h => exact h.any_selfWord hswap

/-- A row keeps the item that the attributes before it are read by. -/
theorem ExchangedRow.isOwned (above : List Kind) {looks : Label → Bool} {ns ms : List Node}
    (h : ExchangedRow swap looks ns ms) : isOwned above ms = isOwned above ns := by
  induction ns generalizing ms with
  | nil =>
    cases h
    rfl
  | cons n ns ih =>
    obtain @⟨⟩ | @⟨_, _, m, _, ms, hn, hs⟩ := h
    have hrest := ih hs
    have hdecoration : m.isDecoration = n.isDecoration := by
      simp only [isDecoration, hn.isComment_eq hswap,
        hn.kind_iff hswap .attributeItem rfl]
    have howns : m.ownsAttributes above = n.ownsAttributes above := by
      simp only [ownsAttributes, hn.kind_iff hswap .modItem rfl,
        hn.kind_iff hswap .functionItem rfl]
    unfold Node.isOwned at hrest ⊢
    rw [decorated?_cons, decorated?_cons, hn.named_eq hswap, hdecoration]
    split
    · exact howns
    · exact hrest

end Faces

end Node

namespace Attribute

theorem saysTest_of_faces {ns ms : List Node} (h : ms.map Node.face = ns.map Node.face) :
    saysTest (ms.map Node.label) = saysTest (ns.map Node.label) := by
  rcases ns with _ | ⟨opening, _ | ⟨word, _ | ⟨closing, _ | ⟨_, _⟩⟩⟩⟩ <;>
    rcases ms with _ | ⟨opening', _ | ⟨word', _ | ⟨closing', _ | ⟨_, _⟩⟩⟩⟩ <;>
      simp only [List.map_cons, List.map_nil, reduceCtorEq, List.cons.injEq, and_true,
        and_false] at h <;> try rfl
  obtain ⟨ho, hw, hc⟩ := h
  have hopening : opening'.label.kind = .openParen ↔ opening.label.kind = .openParen :=
    Node.kind_iff_of_face ho rfl
  have hclosing : closing'.label.kind = .closeParen ↔ closing.label.kind = .closeParen :=
    Node.kind_iff_of_face hc rfl
  have hword : word'.label.kind = .identifier ↔ word.label.kind = .identifier :=
    Node.kind_iff_of_face hw rfl
  simp only [List.map_cons, List.map_nil, saysTest, hopening, hclosing, hword]
  split
  · rename_i hk
    have hread : word'.read = word.read := Node.read_of_face hw (by rw [Node.kind, hk.2.2]; rfl)
    exact congrArg (Functor.map fun text => decide (text = "test")) hread
  · rfl

theorem head?_of_name {a : Node} {said : String} (h : name a = .ok (some said)) :
    ∃ path, a.namedChildren.head? = some path ∧ path.kind = .identifier ∧
      path.text = some said := by
  unfold name at h
  cases hp : a.namedChildren with
  | nil =>
    rw [hp] at h
    cases h
  | cons path rest =>
    rw [hp] at h
    dsimp only at h
    split at h
    · rename_i hi
      refine ⟨path, rfl, hi, ?_⟩
      unfold Node.read at h
      cases ht : path.text with
      | none =>
        rw [ht] at h
        cases h
      | some text =>
        rw [ht] at h
        cases h
        rfl
    · cases h

section Views

variable {a b : Node}

/-- The name of an attribute is told by the face of its first named child. -/
theorem name_of_firstNamed
    (h : b.namedChildren.head?.map Node.face = a.namedChildren.head?.map Node.face) :
    name b = name a := by
  have hname : ∀ a : Node, name a = (a.namedChildren.head?.map Node.face).join.elim (pure none)
      fun face => if face.1 = .identifier then face.2.elim (pure none) (some <$> ·)
        else pure none := by
    intro a
    unfold name
    cases a.namedChildren with
    | nil => rfl
    | cons path rest =>
      simp only [List.head?_cons, Option.map_some, Option.join_some, Node.face]
      cases hk : path.kind <;> rfl
  rw [hname, hname a, h]

/-- Only the attribute `cfg` looks at its arguments. -/
theorem isCfgTest_of_name (hname : name b = name a)
    (hlist : name a = .ok (some "cfg") →
      (b.child? "arguments").map (fun list => saysTest (list.children.map Node.label)) =
        (a.child? "arguments").map fun list => saysTest (list.children.map Node.label)) :
    isCfgTest b = isCfgTest a := by
  have hsaying : ∀ a : Node, isCfgTest a = name a >>= fun said =>
      if said ≠ some "cfg" then pure false
      else ((a.child? "arguments").map fun list => saysTest (list.children.map Node.label)).elim
        (pure false) id := by
    intro a
    rw [isCfgTest_eq]
    cases a.child? "arguments" <;> rfl
  rw [hsaying, hsaying a, hname]
  cases hn : name a with
  | error kind => rfl
  | ok said =>
    by_cases hs : said = some "cfg"
    · subst hs
      rw [hlist hn]
    · simp only [bind, Except.bind, hs, ne_eq, not_false_eq_true, if_true]

end Views

variable {swap : Bool → Node → Node → Prop} (hswap : Node.Admissible swap) {a b : Node}
  (h : Node.Kept swap a b)

include hswap h

theorem name_exchanged : name b = name a :=
  name_of_firstNamed (h.firstNamed hswap fun _ _ _ hcd => hcd.face_eq hswap)

theorem isCfgTest_exchanged (hk : a.kind = .attributeBody) : isCfgTest b = isCfgTest a := by
  apply isCfgTest_of_name (name_exchanged hswap h)
  intro hn
  have hpath : (a.namedChildren.head?.any fun path =>
      path.kind = .identifier && path.text = some "cfg") = true := by
    obtain ⟨path, hp, hi, ht⟩ := head?_of_name hn
    simp [hp, hi, ht]
  refine h.child? hswap "arguments" fun c d hc hcd => ?_
  have hlooks : a.looksInto c.label = true := by
    simp [Node.looksInto, hk, hc, hpath]
  rw [hlooks] at hcd
  cases hcd with
  | here hs => exact hswap.saysTest hs
  | within _ hrow => exact saysTest_of_faces (hrow.faces hswap)

end Attribute
end CrateUsage
