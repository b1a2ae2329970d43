import CrateUsage.Proofs.Rows
import Mathlib.Data.List.Forall2

namespace CrateUsage.Node

/-- All that reading a path, a group or the arguments of an attribute looks at. -/
def surface (n : Node) : Label × List Label × List Label :=
  (n.label, n.segments.map label, n.children.map label)

section Surface

variable {n m : Node}

theorem firstSegment?_congr (h : n.surface = m.surface) :
    n.firstSegment?.map label = m.firstSegment?.map label := by
  have hs : n.segments.map label = m.segments.map label := congrArg (·.2.1) h
  simp only [firstSegment?, ← List.head?_map, hs]

theorem lastSegment?_congr (h : n.surface = m.surface) :
    n.lastSegment?.map label = m.lastSegment?.map label := by
  have hs : n.segments.map label = m.segments.map label := congrArg (·.2.1) h
  simp only [lastSegment?, ← List.getLast?_map, hs]

end Surface

theorem segments_eq (n : Node) :
    n.segments =
      if n.kind.isScopedPath then segmentsAt "path" n.children ++ (n.child? "name").toList
      else if n.kind = .genericType then segmentsAt "type" n.children
      else if n.kind.isSegment then [n]
      else [] := by
  cases n
  rfl

theorem segmentsAt_children (field : String) (n : Node) :
    segmentsAt field n.children = (n.child? field).elim [] segments := by
  unfold child?
  induction n.children with
  | nil => rfl
  | cons m ns ih =>
    rw [segmentsAt, List.find?_cons, ih]
    cases m.label.field == some field <;> rfl

theorem segments_of_scopedPath {n : Node} (kind : n.kind.isScopedPath = true) :
    n.segments = (n.child? "path").elim [] segments ++ (n.child? "name").toList := by
  rw [segments_eq, kind, if_pos rfl, segmentsAt_children]

theorem segments_of_genericType {n : Node} (kind : n.kind = .genericType) :
    n.segments = (n.child? "type").elim [] segments := by
  have hs : n.segments = segmentsAt "type" n.children := by
    rw [segments_eq, kind]
    rfl
  rw [hs, segmentsAt_children]

theorem segments_of_segment {n : Node} (kind : n.kind.isSegment = true) : n.segments = [n] := by
  rw [segments_eq]
  revert kind
  cases n.kind <;> simp [Kind.isScopedPath, Kind.isSegment]

/-- The item that attributes decorate is known by the labels behind them. -/
theorem decorated?_congr {ns ms : List Node} (h : ns.map label = ms.map label) :
    (decorated? ns).map kind = (decorated? ms).map kind := by
  have hd : ∀ ns : List Node, (decorated? ns).map kind =
      (((ns.map label).filter (·.named)).find? fun l =>
        !(l.kind = .attributeItem || l.kind.isComment)).map Label.kind := by
    intro ns
    rw [decorated?, List.filter_map, List.find?_map, Option.map_map]
    rfl
  rw [hd, hd, h]

theorem any_decorated?_congr {ns ms : List Node} (h : ns.map label = ms.map label)
    (above : List Kind) :
    (decorated? ns).any (·.ownsAttributes above) =
      (decorated? ms).any (·.ownsAttributes above) := by
  have hany : ∀ o : Option Node, o.any (·.ownsAttributes above) =
      (o.map kind).any fun k => k = .modItem || (k = .functionItem && isFree above) := by
    intro o
    cases o <;> rfl
  rw [hany, hany, decorated?_congr h]

end CrateUsage.Node

namespace CrateUsage.Outline

theorem elim_congr {f : Node → Outline} {n m : Option Node} (h : n.map f = m.map f) :
    n.elim [] f = m.elim [] f := by
  have helim : ∀ o : Option Node, o.elim [] f = (o.map f).getD [] := by
    intro o
    cases o <;> rfl
  rw [helim, helim, h]

theorem readingOf_of_read {n m : Option Node} (say : String → Step)
    (h : n.map Node.read = m.map Node.read) : readingOf n say = readingOf m say := by
  have hread : ∀ n : Option Node, readingOf n say = (n.map Node.read).elim [] fun said =>
      said.casesOn (fun kind => [.unreadable kind]) fun s => [say s] := by
    intro n
    cases n with
    | none => rfl
    | some n =>
      simp only [readingOf, reading, Option.map_some, Option.elim_some]
      cases n.read <;> rfl
  rw [hread, hread, h]

theorem referring_of_read {s t : Option Node} {n m : Node} (hs : s.map Node.read = t.map Node.read)
    (hn : n.line = m.line) : referring s n = referring t m := by
  unfold referring
  rw [hn]
  exact readingOf_of_read _ hs

theorem declaringLast_of_read {n m : Node}
    (h : n.lastSegment?.map Node.read = m.lastSegment?.map Node.read) :
    declaringLast n = declaringLast m := by
  have hread : ∀ n : Node, declaringLast n = (n.lastSegment?.map Node.read).elim [] fun said =>
      said.casesOn (fun kind => [.unreadable kind])
        fun name => if isPathKeyword name then [] else [.declare name] := by
    intro n
    unfold declaringLast
    cases n.lastSegment? with
    | none => rfl
    | some segment =>
      simp only [Option.map_some, Option.elim_some]
      cases segment.read <;> rfl
  rw [hread, hread, h]

theorem map_read_of_map_label {n m : Option Node} (h : n.map Node.label = m.map Node.label) :
    n.map Node.read = m.map Node.read := by
  have hread : ∀ n : Option Node,
      n.map Node.read = (n.map Node.label).map fun l => (Node.mk l []).read := by
    intro n
    cases n <;> rfl
  rw [hread, hread, h]

theorem readingOf_congr {n m : Option Node} (say : String → Step)
    (h : n.map Node.label = m.map Node.label) : readingOf n say = readingOf m say :=
  readingOf_of_read say (map_read_of_map_label h)

theorem referring_congr {s t : Option Node} {n m : Node} (hs : s.map Node.label = t.map Node.label)
    (hn : n.label = m.label) : referring s n = referring t m :=
  referring_of_read (map_read_of_map_label hs) (by simp only [Node.line, hn])

theorem declaringLast_congr {n m : Node} (h : n.surface = m.surface) :
    declaringLast n = declaringLast m :=
  declaringLast_of_read (map_read_of_map_label (Node.lastSegment?_congr h))

theorem declaringGroup_congr {path items path' items' : Node} (hp : path.surface = path'.surface)
    (hi : items.surface = items'.surface) :
    declaringGroup path items = declaringGroup path' items' := by
  have hc : items.children.map Node.label = items'.children.map Node.label := congrArg (·.2.2) hi
  have hself : ∀ n : Node, n.namedChildren.any (·.kind = .selfWord) =
      (n.children.map Node.label).any (fun l => l.named && l.kind = .selfWord) := by
    intro n
    rw [Node.namedChildren, List.any_filter, List.any_map]
    rfl
  unfold declaringGroup
  rw [hself, hself, hc]
  split
  · exact readingOf_congr _ (Node.lastSegment?_congr hp)
  · rfl

theorem pathHead_eq (segments : List Node) :
    pathHead segments =
      match segments.map Node.label with
      | first :: _ :: _ => referring (some (.mk first [])) (.mk first [])
      | _ => [] := by
  rcases segments with _ | ⟨first, _ | ⟨second, others⟩⟩
  · rfl
  · rfl
  · exact referring_congr rfl rfl

theorem pathHead_congr {n m : Node} (h : n.surface = m.surface) :
    pathHead n.segments = pathHead m.segments := by
  have hs : n.segments.map Node.label = m.segments.map Node.label := congrArg (·.2.1) h
  rw [pathHead_eq, pathHead_eq, hs]

theorem referringFirst_eq (path : Option Node) :
    referringFirst path = path.elim [] fun path => referring path.firstSegment? path := by
  cases path <;> rfl

theorem useNames_eq (n : Node) :
    useNames n =
      match n.kind with
      | .identifier => declaring (some n)
      | .scopedIdentifier => declaringLast n
      | .useAsClause =>
        ((n.child? "path").elim [] fun path => referring path.lastSegment? path) ++
          declaring (n.child? "alias")
      | .scopedUseList =>
        (n.child? "list").elim [] fun items =>
          ((n.child? "path").elim [] fun path => declaringGroup path items) ++
            useNamesAt "list" n.children
      | .useList => useNamesOf n.children
      | _ => [] := by
  obtain ⟨l, cs⟩ := n
  simp only [useNames, Node.kind, Node.label_mk, Node.children_mk]
  generalize l.kind = kind
  cases kind
  case useAsClause => cases (Node.mk l cs).child? "path" <;> rfl
  case scopedUseList =>
    cases (Node.mk l cs).child? "path" <;> cases (Node.mk l cs).child? "list" <;> rfl
  all_goals rfl

end CrateUsage.Outline

namespace CrateUsage.Attribute

theorem name_eq (a : Node) :
    name a = (a.namedChildren.head?.map Node.label).elim (pure none) fun path =>
      if path.kind = .identifier then some <$> (Node.mk path []).read else pure none := by
  unfold name
  cases a.namedChildren <;> rfl

def saysTest : List Label → Except Kind Bool
  | [opening, word, closing] =>
    if opening.kind = .openParen ∧ closing.kind = .closeParen ∧ word.kind = .identifier then
      (fun text => decide (text = "test")) <$> (Node.mk word []).read
    else pure false
  | _ => pure false

theorem isCfgTest_eq (a : Node) :
    isCfgTest a = name a >>= fun said =>
      if said ≠ some "cfg" then pure false
      else ((a.child? "arguments").map Node.surface).elim (pure false) fun list =>
        saysTest list.2.2 := by
  unfold isCfgTest
  congr 1
  funext said
  split
  · rfl
  · cases a.child? "arguments" with
    | none => rfl
    | some list =>
      simp only [Option.map_some, Option.elim_some, Node.surface]
      rcases list.children with _ | ⟨opening, _ | ⟨word, _ | ⟨closing, _ | _⟩⟩⟩
      all_goals rfl

end CrateUsage.Attribute

theorem CrateUsage.Markers.ofAttributes_congr {as bs : List Node}
    (h : List.Forall₂ (fun a b => Attribute.name b = Attribute.name a ∧
      Attribute.isCfgTest b = Attribute.isCfgTest a) as bs) :
    ofAttributes bs = ofAttributes as := by
  have hnames : bs.mapM Attribute.name = as.mapM Attribute.name := by
    induction h with
    | nil => rfl
    | cons hab _ ih => rw [List.mapM_cons, List.mapM_cons, hab.1, ih]
  have hany : Attribute.anyCfgTest bs = Attribute.anyCfgTest as := by
    clear hnames
    induction h with
    | nil => rfl
    | cons hab _ ih => simp only [Attribute.anyCfgTest, hab.2, ih]
  simp only [ofAttributes, hnames, hany]
