import CrateUsage.Proofs.Mentions
import CrateUsage.Proofs.UseTree
import Mathlib.Data.List.Forall2

namespace CrateUsage

def UsePath.root (path : List Segment) : List Mention :=
  path.head?.elim [] fun s => Mention.referring s.text

/-- What an imported path mentions beside its first segment: the name it brings, and where it is
renamed, the name it gives up. -/
def UsePath.mentions (u : UsePath) : List Mention :=
  match u.ending with
  | .plain => u.path.getLast?.elim [] fun s => Mention.declaring s.text
  | .star => []
  | .renamed name =>
    (u.path.getLast?.elim [] fun s => Mention.referring s.text) ++ Mention.declaring name

namespace Outline

theorem mentions_referring {m : Node} {name : String} (h : m.text = some name) (at_ : Node) :
    Mentions (referring (some m) at_) (Mention.referring name) := by
  simp only [referring, readingOf, reading, Node.read, h]
  exact .ofRefer name at_.line

theorem mentions_declaring {m : Node} {name : String} (h : m.text = some name) :
    Mentions (declaring (some m)) (Mention.declaring name) := by
  simp only [declaring, readingOf, reading, Node.read, h]
  exact .ofDeclare name

theorem mentions_referringFirst {path : List Segment} {n : Node} (h : n.IsPath path) :
    Mentions (referringFirst (some n)) (UsePath.root path) := by
  obtain ⟨m, hm, ht⟩ := h.firstSegment?
  rw [referringFirst, hm, UsePath.root, List.head?_eq_some_head h.ne_nil]
  exact mentions_referring ht n

theorem mentions_referringLast {path : List Segment} {n : Node} (h : n.IsPath path) :
    Mentions (referring n.lastSegment? n)
      (path.getLast?.elim [] fun s => Mention.referring s.text) := by
  obtain ⟨m, hm, ht⟩ := h.lastSegment?
  rw [hm, List.getLast?_eq_some_getLast h.ne_nil]
  exact mentions_referring ht n

theorem mentions_declaringLast {path : List Segment} {n : Node} (h : n.IsPath path) :
    Mentions (declaringLast n) (path.getLast?.elim [] fun s => Mention.declaring s.text) := by
  obtain ⟨m, hm, ht⟩ := h.lastSegment?
  rw [List.getLast?_eq_some_getLast h.ne_nil, Option.elim_some]
  generalize (path.getLast h.ne_nil).text = name at ht
  simp only [declaringLast, hm, Node.read, ht]
  cases hk : isPathKeyword name with
  | true =>
    rw [Mention.declaring, hk]
    exact .nil
  | false => exact .ofDeclare name

/-- Whatever is imported, the last segment of a path is the last one of the whole path. -/
theorem mentions_append (before path : List Segment) (ending : PathEnd) (h : path ≠ []) :
    (UsePath.mk (before ++ path) ending).mentions = (UsePath.mk path ending).mentions := by
  have hlast : (before ++ path).getLast? = path.getLast? := by
    rw [List.getLast?_append, List.getLast?_eq_some_getLast h, Option.some_or]
  simp only [UsePath.mentions, hlast]

theorem isUsePath_ne_nil {u : UsePath} {n : Node} (h : n.IsUsePath u) : u.path ≠ [] := by
  unfold Node.IsUsePath at h
  split at h
  · exact h.ne_nil
  · obtain ⟨-, path, -, hp⟩ := h
    exact hp.ne_nil
  · obtain ⟨-, ⟨path, -, hp⟩, -⟩ := h
    exact hp.ne_nil

/-- Of a path of one segment the names come from the leaf itself. -/
theorem mentions_useNames_path {path : List Segment} {n : Node} (h : n.IsPath path) :
    Mentions (useNames n) (UsePath.mk path .plain).mentions := by
  have hl := mentions_declaringLast h
  rw [useNames_eq]
  cases h with
  | @single s n kind text =>
    rw [kind]
    cases s with
    | name x => exact mentions_declaring text
    | crateWord | selfWord | superWord => exact .nil
  | longer kind _ _ _ _ =>
    rw [kind]
    exact hl

/-- What a path with its ending mentions as a part of a group. -/
theorem mentions_useNames {u : UsePath} {n : Node} (h : n.IsUsePath u) :
    Mentions (useNames n) u.mentions := by
  obtain ⟨path, ending⟩ := u
  cases ending with
  | plain => exact mentions_useNames_path h
  | star =>
    obtain ⟨kind, -⟩ := h
    rw [useNames_eq, kind]
    exact .nil
  | renamed name =>
    obtain ⟨kind, ⟨before, hb, hp⟩, leaf, hl, ht⟩ := h
    rw [useNames_eq, kind]
    simp only [hb, hl, Option.elim_some]
    exact (mentions_referringLast hp).append (mentions_declaring ht)

/-- Of a path of one word nothing is referred to, but that word could be no crate either. -/
theorem mentions_useRoot {u : UsePath} {n : Node} (h : n.IsUsePath u) :
    Mentions (useRoot n) (UsePath.root u.path) := by
  obtain ⟨path, ending⟩ := u
  cases ending with
  | plain =>
    have hp : n.IsPath path := h
    have hf := mentions_referringFirst hp
    unfold useRoot
    cases hp with
    | @single s n kind text =>
      rw [kind]
      cases s with
      | name x => exact hf
      | crateWord | selfWord | superWord => exact .nil
    | longer kind _ _ _ _ =>
      rw [kind]
      exact hf
  | star =>
    obtain ⟨kind, before, hb, hp⟩ := h
    unfold useRoot
    rw [kind]
    simp only [hb]
    exact mentions_referringFirst hp
  | renamed name =>
    obtain ⟨kind, ⟨before, hb, hp⟩, -⟩ := h
    unfold useRoot
    rw [kind]
    simp only [hb]
    exact mentions_referringFirst hp

/-- The names of a list of use trees are those of its members. -/
theorem useNames_list {items : Node} (h : items.kind = .useList) :
    useNames items = items.namedChildren.flatMap useNames := by
  rw [useNames_eq, h]
  exact useNamesOf_eq items.children

theorem kind_ne_selfWord {tree : UseTree} {n : Node} (h : n.IsUseTree tree) :
    n.kind ≠ .selfWord := by
  have hne : ∀ kind : Kind, n.kind = kind → kind ≠ .selfWord → n.kind ≠ .selfWord :=
    fun _ hk hn => hk ▸ hn
  cases tree with
  | group lead withSelf members =>
    obtain ⟨kind, -⟩ := h
    exact hne _ kind (by decide)
  | leaf names ending =>
    cases ending with
    | star =>
      obtain ⟨kind, -⟩ := h
      exact hne _ kind (by decide)
    | renamed name =>
      obtain ⟨kind, -⟩ := h
      exact hne _ kind (by decide)
    | plain =>
      have hp : n.IsPath (names.map .name) := h
      generalize hs : names.map Segment.name = path at hp
      cases hp with
      | longer kind _ _ _ _ => exact hne _ kind (by decide)
      | @single s n kind _ =>
        obtain ⟨x, -, rfl⟩ := List.mem_map.mp (hs ▸ List.mem_singleton.mpr rfl : s ∈ _)
        exact hne .identifier kind (by decide)

theorem no_selfWord {trees : List UseTree} {ns : List Node} (h : Node.AreUseTrees trees ns) :
    ns.any (·.kind = .selfWord) = false := by
  induction trees generalizing ns with
  | nil =>
    cases h
    rfl
  | cons tree trees ih =>
    obtain ⟨n, rest, rfl, hn, hr⟩ := h
    simp [kind_ne_selfWord hn, ih hr]

mutual
/-- By induction on the use tree: a tree mentions what the paths mention that it imports, in their
order, whatever stands before it. -/
theorem mentions_useTree (before : List Segment) : ∀ (tree : UseTree) {n : Node},
    n.IsUseTree tree → Mentions (useNames n) ((tree.paths before).flatMap UsePath.mentions)
  | .leaf names ending, n, h => by
    have hu : n.IsUsePath ⟨names.map .name, ending⟩ := h
    rw [UseTree.paths, List.flatMap_singleton, mentions_append _ _ _ (isUsePath_ne_nil hu)]
    exact mentions_useNames hu
  | .group lead withSelf members, n, h => by
    obtain ⟨kind, ⟨path, hpath, hp⟩, items, hitems, hlist, hmembers⟩ := h
    rw [useNames_eq, kind]
    simp only [hpath, hitems, Option.elim_some, UseTree.paths, List.flatMap_append,
      useNamesAt_children, useNames_list hlist, declaringGroup]
    refine .append ?_ ?_
    · cases withSelf with
      | false =>
        rw [no_selfWord hmembers]
        exact .nil
      | true =>
        obtain ⟨word, rest, hw, hk, -⟩ := hmembers
        have hself := mentions_append before lead .plain hp.ne_nil
        obtain ⟨m, hm, ht⟩ := hp.lastSegment?
        simp only [hw, List.any_cons, hk, decide_true, Bool.true_or, if_true,
          List.flatMap_singleton, hself, hm]
        simp only [UsePath.mentions, List.getLast?_eq_some_getLast hp.ne_nil, Option.elim_some]
        exact mentions_declaring ht
    · cases withSelf with
      | false => exact mentions_useTrees (before ++ lead) members hmembers
      | true =>
        obtain ⟨word, rest, hw, hk, hr⟩ := hmembers
        have hword : useNames word = [] := by rw [useNames_eq, hk]
        rw [hw, List.flatMap_cons, hword]
        exact mentions_useTrees (before ++ lead) members hr

theorem mentions_useTrees (before : List Segment) : ∀ (trees : List UseTree) {ns : List Node},
    Node.AreUseTrees trees ns →
      Mentions (ns.flatMap useNames) ((UseTree.pathsOf before trees).flatMap UsePath.mentions)
  | [], _, h => by
    cases h
    exact .nil
  | tree :: trees, _, h => by
    obtain ⟨n, rest, rfl, hn, hr⟩ := h
    rw [List.flatMap_cons, UseTree.pathsOf, List.flatMap_append]
    exact (mentions_useTree before tree hn).append (mentions_useTrees before trees hr)
end

/-- A use declaration for one path mentions its first segment before all else. -/
theorem mentions_declaration {u : UsePath} {n : Node} (h : n.UsesArgument (·.IsUsePath u))
    (p : Place) (after : List Node) :
    Mentions (ofNode false p after n) (UsePath.root u.path ++ u.mentions) := by
  obtain ⟨kind, -, tree, ht, hu⟩ := h
  rw [ofNode_eq, kind]
  simp only [ht, Option.elim_some]
  exact (mentions_useRoot hu).append (mentions_useNames hu)

theorem mentions_declarations {us : List UsePath} {ns : List Node}
    (h : List.Forall₂ (fun u (n : Node) => n.UsesArgument (·.IsUsePath u)) us ns) (p : Place) :
    Mentions (ofChildren .every p ns)
      (us.flatMap fun u => UsePath.root u.path ++ u.mentions) := by
  induction h generalizing p with
  | nil => exact .nil
  | @cons u n us ns hu _ ih =>
    rw [ofChildren_every_cons, if_pos hu.2.1, List.flatMap_cons]
    exact (mentions_declaration hu p ns).append (ih _)

/-- A use declaration for a group mentions the first segment of its path once, before all else. -/
theorem mentions_groupDeclaration {lead : List Segment} {withSelf : Bool} {members : List UseTree}
    {n : Node} (h : n.UsesArgument (·.IsUseTree (.group lead withSelf members)))
    (p : Place) (after : List Node) :
    Mentions (ofNode false p after n) (UsePath.root lead ++
      ((UseTree.group lead withSelf members).paths []).flatMap UsePath.mentions) := by
  obtain ⟨kind, -, tree, ht, hg⟩ := h
  have hnames := mentions_useTree [] _ hg
  obtain ⟨hkind, ⟨path, hpath, hp⟩, -⟩ := hg
  rw [ofNode_eq, kind]
  simp only [ht, Option.elim_some]
  refine .append ?_ hnames
  unfold useRoot
  rw [hkind]
  simp only [hpath]
  exact mentions_referringFirst hp

end Outline

theorem UseTree.head?_append {before : List Segment} (h : before ≠ []) (path : List Segment) :
    (before ++ path).head? = before.head? := by
  rw [List.head?_append, List.head?_eq_some_head h, Option.some_or]

mutual
theorem UseTree.head?_paths {before : List Segment} (h : before ≠ []) : ∀ (tree : UseTree),
    ∀ u ∈ tree.paths before, u.path.head? = before.head?
  | .leaf names ending, u, hu => by
    rw [UseTree.paths, List.mem_singleton] at hu
    rw [hu, UseTree.head?_append h]
  | .group lead withSelf members, u, hu => by
    have happ := UseTree.head?_append h lead
    have hne : before ++ lead ≠ [] := by simp [h]
    rw [UseTree.paths, List.mem_append] at hu
    rcases hu with hu | hu
    · cases withSelf with
      | false => cases hu
      | true =>
        rw [List.mem_singleton.mp hu]
        exact happ
    · exact (UseTree.head?_pathsOf hne members u hu).trans happ

theorem UseTree.head?_pathsOf {before : List Segment} (h : before ≠ []) : ∀ (trees : List UseTree),
    ∀ u ∈ UseTree.pathsOf before trees, u.path.head? = before.head?
  | [], u, hu => by cases hu
  | tree :: trees, u, hu => by
    rw [UseTree.pathsOf, List.mem_append] at hu
    rcases hu with hu | hu
    · exact UseTree.head?_paths h tree u hu
    · exact UseTree.head?_pathsOf h trees u hu
end

/-- Every path of a group begins as the path before the group. -/
theorem UseTree.root_of_group {lead : List Segment} (h : lead ≠ []) {withSelf : Bool}
    {members : List UseTree} {u : UsePath}
    (hu : u ∈ (UseTree.group lead withSelf members).paths []) :
    UsePath.root u.path = UsePath.root lead := by
  have hhead : u.path.head? = lead.head? := by
    rw [UseTree.paths, List.mem_append] at hu
    rcases hu with hu | hu
    · cases withSelf with
      | false => cases hu
      | true => rw [List.mem_singleton.mp hu, List.nil_append]
    · exact UseTree.head?_pathsOf h members u hu
  simp only [UsePath.root, hhead]

/-- A group in a use declaration means what it comes to when each of its paths has a declaration of
its own: from every state both are read to the end, the same crates are found for the same builds in
the same order, and the same names are hidden but for path keywords. -/
theorem Survey.group_matches_declarations {lead : List Segment} {withSelf : Bool}
    {members : List UseTree} {group : Node} {declarations : List Node}
    (hg : group.UsesArgument (·.IsUseTree (.group lead withSelf members)))
    (hd : List.Forall₂ (fun u (n : Node) => n.UsesArgument (·.IsUsePath u))
      ((UseTree.group lead withSelf members).paths []) declarations)
    (hne : (UseTree.group lead withSelf members).paths [] ≠ [])
    (p q : Outline.Place) (after : List Node) (s : Survey) :
    ∃ t u, Step.runAll (Outline.ofNode false p after group) s = (none, t) ∧
      Step.runAll (Outline.ofChildren .every q declarations) s = (none, u) ∧
      t.ledger.normal = u.ledger.normal ∧ t.ledger.testOnly = u.ledger.testOnly ∧
      t.ledger.records.map (fun r => (r.name, r.build)) =
        u.ledger.records.map (fun r => (r.name, r.build)) ∧
      ∀ name, isPathKeyword name = false →
        t.scopes.isShadowed name = u.scopes.isShadowed name := by
  have hlead : lead ≠ [] := by
    obtain ⟨-, -, tree, -, -, ⟨path, -, hp⟩, -⟩ := hg
    exact hp.ne_nil
  obtain ⟨t, ht, htm⟩ :=
    matches_runAll (Outline.mentions_groupDeclaration hg p after) (Matches.refl s)
  obtain ⟨u, hu, hum⟩ := matches_runAll (Outline.mentions_declarations hd q) (Matches.refl s)
  have hroot : UsePath.root lead = Mention.referring (lead.head hlead).text := by
    rw [UsePath.root, List.head?_eq_some_head hlead, Option.elim_some]
  have hpaths : (((UseTree.group lead withSelf members).paths []).flatMap fun u =>
      UsePath.root u.path ++ u.mentions) =
      ((UseTree.group lead withSelf members).paths []).flatMap fun u =>
        UsePath.root lead ++ u.mentions :=
    List.flatMap_congr fun v hv => by rw [UseTree.root_of_group hlead hv]
  rw [hpaths, hroot] at hum
  rw [hroot] at htm
  have hmatches := (htm.trans (matches_referring _ hne UsePath.mentions s)).trans hum.symm
  obtain ⟨hn, hx, hr⟩ := Ledger.eq_of_withoutLines hmatches.ledger
  exact ⟨t, u, ht, hu, hn, hx, hr, hmatches.hidden⟩

open Node in
/-- `use std::io::{self, Result as R, fmt::{Write, prelude::*}};` where a local module `Write` and a
crate `Result` are known already. -/
theorem Survey.group_matches_io :
    let std : Segment := .name "std"
    let io : Segment := .name "io"
    let fmt : Segment := .name "fmt"
    let declaration := fun argument : Node => worded .useDeclaration none "" [argument]
    let rename := fun path : Node => worded .useAsClause (some "argument") ""
      [path, worded .identifier (some "alias") "R" []]
    let members := [UseTree.leaf ["Result"] (.renamed "R"),
      .group [fmt] false [.leaf ["Write"] .plain, .leaf ["prelude"] .star]]
    let inner := worded .scopedUseList none "" [pathNode (some "path") fmt [],
      worded .useList (some "list") "" [pathNode none (.name "Write") [],
        worded .useWildcard none "" [pathNode none (.name "prelude") []]]]
    let group := declaration (worded .scopedUseList (some "argument") ""
      [pathNode (some "path") io [std], worded .useList (some "list") ""
        [worded .selfWord none "self" [],
          worded .useAsClause none "" [pathNode (some "path") (.name "Result") [],
            worded .identifier (some "alias") "R" []],
          inner]])
    let declarations := [
      declaration (pathNode (some "argument") io [std]),
      declaration (rename (pathNode (some "path") (.name "Result") [io, std])),
      declaration (pathNode (some "argument") (.name "Write") [fmt, io, std]),
      declaration (worded .useWildcard (some "argument") ""
        [pathNode none (.name "prelude") [fmt, io, std]])]
    let s := (({} : Survey).declare "Write").refer "Result" (some 7)
    group.UsesArgument (·.IsUseTree (.group [std, io] true members)) ∧
      List.Forall₂ (fun u (n : Node) => n.UsesArgument (·.IsUsePath u))
        ((UseTree.group [std, io] true members).paths []) declarations ∧
      ∃ t u, Step.runAll (Outline.ofNode false {} [] group) s = (none, t) ∧
        Step.runAll (Outline.ofChildren .every {} declarations) s = (none, u) ∧
        t.ledger.normal = ["Result", "std"] ∧ t.ledger.normal = u.ledger.normal ∧
        t.scopes.isShadowed "io" = true ∧
        t.scopes.isShadowed "io" = u.scopes.isShadowed "io" := by
  intro std io fmt declaration rename members inner group declarations s
  have hpath := fun field => isPath_pathNode field
  have hleaf : ∀ (field : Option String) (x : Segment), (pathNode field x []).IsPath [x] :=
    fun field x => isPath_pathNode field x []
  have hinner : inner.IsUseTree (.group [fmt] false [.leaf ["Write"] .plain,
      .leaf ["prelude"] .star]) :=
    ⟨rfl, ⟨_, rfl, hleaf _ fmt⟩, _, rfl, rfl, _, _, rfl, hleaf _ (.name "Write"), _, _, rfl,
      ⟨rfl, _, rfl, hleaf _ (.name "prelude")⟩, rfl⟩
  have hgroup : group.UsesArgument (·.IsUseTree (.group [std, io] true members)) :=
    ⟨rfl, rfl, _, rfl, rfl, ⟨_, rfl, hpath _ io [std]⟩, _, rfl, rfl, _, _, rfl, rfl,
      _, _, rfl, ⟨rfl, ⟨_, rfl, hleaf _ (.name "Result")⟩, _, rfl, rfl⟩, _, _, rfl, hinner, rfl⟩
  have hdeclarations : List.Forall₂ (fun u (n : Node) => n.UsesArgument (·.IsUsePath u))
      ((UseTree.group [std, io] true members).paths []) declarations :=
    .cons ⟨rfl, rfl, _, rfl, hpath _ io [std]⟩
      (.cons ⟨rfl, rfl, _, rfl, rfl, ⟨_, rfl, hpath _ (.name "Result") [io, std]⟩, _, rfl, rfl⟩
        (.cons ⟨rfl, rfl, _, rfl, hpath _ (.name "Write") [fmt, io, std]⟩
          (.cons ⟨rfl, rfl, _, rfl, rfl, _, rfl, hpath _ (.name "prelude") [fmt, io, std]⟩ .nil)))
  obtain ⟨t, u, ht, hu, hn, -, -, hs⟩ :=
    group_matches_declarations hgroup hdeclarations (by simp [UseTree.paths]) {} {} [] s
  refine ⟨hgroup, hdeclarations, t, u, ht, hu, ?_, hn, ?_, hs "io" (by decide)⟩
  · have hnormal : (Step.runAll (Outline.ofNode false {} [] group) s).2.ledger.normal =
        ["Result", "std"] := by rfl
    rw [ht] at hnormal
    exact hnormal
  · have hio : (Step.runAll (Outline.ofNode false {} [] group) s).2.scopes.isShadowed "io" =
        true := by rfl
    rw [ht] at hio
    exact hio

end CrateUsage
