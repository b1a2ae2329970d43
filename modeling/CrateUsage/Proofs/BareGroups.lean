import CrateUsage.Proofs.FlatOutlines
import CrateUsage.Proofs.UseGroups

namespace CrateUsage

namespace Survey

/-- Two surveys in the same scopes, of which the second knows more crates for the current build. -/
structure Leads (s t : Survey) (more : String → Prop) : Prop where
  hidden : ∀ name, t.scopes.isShadowed name = s.scopes.isShadowed name
  build : t.build = s.build
  names : ∀ build name, name ∈ t.ledger.names build ↔
    name ∈ s.ledger.names build ∨ (build = s.build ∧ more name)

variable {s t : Survey} {more : String → Prop}

theorem Leads.refl (s : Survey) : s.Leads s fun _ => False := ⟨fun _ => rfl, rfl, by simp⟩

theorem Leads.of_iff {others : String → Prop} (h : s.Leads t more)
    (hm : ∀ name, more name ↔ others name) : s.Leads t others :=
  ⟨h.hidden, h.build, fun build name => by rw [h.names, hm]⟩

/-- A reference adds its name, unless it is a path keyword or local. -/
theorem mem_names_refer (s : Survey) (name : String) (line : Option Int) (build : Build)
    (n : String) :
    n ∈ (s.refer name line).ledger.names build ↔ n ∈ s.ledger.names build ∨ (build = s.build ∧
      n = name ∧ isPathKeyword name = false ∧ s.scopes.isShadowed name = false) := by
  rw [ledger_refer]
  cases hk : isPathKeyword name || s.scopes.isShadowed name with
  | true =>
    have hnot : ¬(isPathKeyword name = false ∧ s.scopes.isShadowed name = false) := by
      rintro ⟨ha, hb⟩
      simp [ha, hb] at hk
    simp [hnot]
  | false =>
    obtain ⟨ha, hb⟩ := Bool.or_eq_false_iff.mp hk
    simp only [Bool.false_eq_true, if_false, Ledger.names_enter, ha, hb, and_true]
    split
    · rename_i hn
      obtain ⟨rfl, -⟩ := hn
      simp
    · rename_i hn
      constructor
      · exact .inl
      · rintro (h | ⟨rfl, rfl⟩)
        · exact h
        · simpa [Ledger.holds] using hn

theorem Leads.refer (h : s.Leads t more) (name : String) (line line' : Option Int) :
    (s.refer name line).Leads (t.refer name line') more where
  hidden n := by rw [scopes_refer, scopes_refer, h.hidden]
  build := by rw [build_refer, build_refer, h.build]
  names build n := by
    rw [mem_names_refer, mem_names_refer, h.names, h.hidden, h.build, build_refer]
    exact or_right_comm

theorem Leads.declare (h : s.Leads t more) (name : String) :
    (s.declare name).Leads (t.declare name) more where
  hidden n := by
    rw [scopes_declare, scopes_declare, ScopeStack.isShadowed_declare,
      ScopeStack.isShadowed_declare, h.hidden]
  build := by rw [build_declare, build_declare, h.build]
  names build n := by rw [ledger_declare, ledger_declare, build_declare, h.names]

/-- A reference of the second survey alone. -/
theorem Leads.ahead (h : s.Leads t more) (name : String) (line : Option Int) :
    s.Leads (t.refer name line) fun n => more n ∨ (n = name ∧ isPathKeyword name = false ∧
      s.scopes.isShadowed name = false) where
  hidden n := by rw [scopes_refer, h.hidden]
  build := by rw [build_refer, h.build]
  names build n := by
    rw [mem_names_refer, h.names, h.hidden, h.build, or_assoc, ← and_or_left]

theorem Leads.runAll {o : Outline} (ho : o.IsFlat) (h : s.Leads t more) :
    ∃ s' t', Step.runAll o s = (none, s') ∧ Step.runAll o t = (none, t') ∧ s'.Leads t' more := by
  induction o generalizing s t with
  | nil => exact ⟨s, t, rfl, rfl, h⟩
  | cons step o ih =>
    have hrest : Outline.IsFlat o := fun q hq => ho q (List.mem_cons_of_mem _ hq)
    have hstep := ho step List.mem_cons_self
    cases step with
    | refer name line => exact ih hrest (h.refer name _ _)
    | declare name => exact ih hrest (h.declare name)
    | unreadable kind => cases hstep
    | scope marked body => cases hstep
    | function name markers body => cases hstep

end Survey

/-- What comes behind an outline that was read to its end is read where that ended. -/
theorem Step.runAll_append {a : Outline} {s t : Survey} (h : Step.runAll a s = (none, t))
    (b : Outline) : Step.runAll (a ++ b) s = Step.runAll b t := by
  induction a generalizing s with
  | nil =>
    cases h
    rfl
  | cons step a ih =>
    rw [List.cons_append]
    simp only [Step.runAll] at h ⊢
    split at h
    · exact ih h
    · rename_i hstop
      exact (hstop t h).elim

namespace Node

/-- The crate that a use tree would name as the argument of a declaration, unless it is local. -/
def useCrate? (tree : Node) : Option String :=
  (((Lexical.usePath? tree).bind firstSegment?).bind text).filter (!isPathKeyword ·)

def asArgument (n : Node) : Node := .mk { n.label with field := some "argument" } n.children

/-- A node for a group without a path before it, `{..}` or `::{..}`, with these members. -/
def IsBareGroup (members : List Node) (n : Node) : Prop :=
  (n.kind = .useList ∧ n.namedChildren = members) ∨
    (n.kind = .scopedUseList ∧ n.child? "path" = none ∧
      ∃ items, n.child? "list" = some items ∧ items.kind = .useList ∧
        items.namedChildren = members)

end Node

namespace Outline

theorem segments_asArgument {n : Node} (h : n.kind.isSegment = false) :
    n.asArgument.segments = n.segments := by
  rw [Node.segments_eq, Node.segments_eq n]
  change (if n.kind.isScopedPath then _ else if n.kind = .genericType then _
    else if n.kind.isSegment then _ else _) = _
  rw [h]
  rfl

/-- Of a leaf only the text, the kind and the row are read. -/
theorem reading_asArgument (n : Node) (say : String → Step) :
    reading n.asArgument say = reading n say := rfl

theorem useRoot_asArgument (tree : Node) : useRoot tree.asArgument = useRoot tree := by
  have hkind : tree.asArgument.kind = tree.kind := rfl
  unfold useRoot
  rw [hkind]
  cases hk : tree.kind
  case identifier =>
    have hs : ∀ n : Node, n.kind = .identifier → n.firstSegment? = some n := by
      intro n hn
      rw [Node.firstSegment?, Node.segments_of_segment (by rw [hn]; rfl)]
      rfl
    simp only [referringFirst, hs tree hk, hs tree.asArgument hk]
    exact reading_asArgument tree _
  case scopedIdentifier =>
    have hs : tree.asArgument.segments = tree.segments := segments_asArgument (by rw [hk]; rfl)
    simp only [referringFirst, Node.firstSegment?, hs]
    rfl
  all_goals rfl

theorem useNames_asArgument (tree : Node) : useNames tree.asArgument = useNames tree := by
  have hkind : tree.asArgument.kind = tree.kind := rfl
  rw [useNames_eq, useNames_eq tree, hkind]
  cases hk : tree.kind
  case identifier => exact reading_asArgument tree _
  case scopedIdentifier =>
    have hs : tree.asArgument.segments = tree.segments := segments_asArgument (by rw [hk]; rfl)
    simp only [declaringLast, Node.lastSegment?, hs]
  all_goals rfl

/-- The one reference that a whole use tree may begin with. -/
theorem useRoot_eq_useCrate {tree : Node} (h : tree.Legible) :
    (useRoot tree = [] ∧ tree.useCrate? = none) ∨
      ∃ name line, useRoot tree = [.refer name line] ∧
        tree.useCrate? = if isPathKeyword name then none else some name := by
  rw [Lexical.useRoot_eq_referringFirst]
  unfold Node.useCrate?
  cases hp : Lexical.usePath? tree with
  | none => exact .inl ⟨rfl, rfl⟩
  | some path =>
    cases hs : path.firstSegment? with
    | none => exact .inl ⟨by simp [referringFirst, hs, referring, readingOf], by simp [hs]⟩
    | some segment =>
      have hl : segment.Legible := (Lexical.legible_usePath? h hp).firstSegment? hs
      refine .inr ⟨segment.word, path.line, ?_, ?_⟩
      · simp only [referringFirst, hs, referring, readingOf, reading, hl.read_eq]
      · have ht : segment.text = some segment.word := by
          cases ht : segment.text with
          | none => exact (hl segment segment.self_mem_preorder ht).elim
          | some text => simp [Node.word, ht]
        simp only [Option.bind_some, hs, ht, Option.filter_some]
        cases isPathKeyword segment.word <;> rfl

end Outline

namespace Survey

/-- The crate begins a member of the group, and it is no local name where that member stands. -/
def Skips (s : Survey) (members : List Node) (name : String) : Prop :=
  ∃ before member after, members = before ++ member :: after ∧ member.useCrate? = some name ∧
    (Step.runAll (before.flatMap Outline.useNames) s).2.scopes.isShadowed name = false

theorem skips_nil (s : Survey) (name : String) : ¬s.Skips [] name := by
  rintro ⟨before, member, after, h, -⟩
  simp at h

/-- The first member stands where the group begins, and the others behind its names. -/
theorem skips_cons {s u : Survey} {member : Node} {members : List Node} {name : String}
    (hu : Step.runAll (Outline.useNames member) s = (none, u)) :
    s.Skips (member :: members) name ↔
      (member.useCrate? = some name ∧ s.scopes.isShadowed name = false) ∨
        u.Skips members name := by
  constructor
  · rintro ⟨before, m, after, he, hm, hs⟩
    cases before with
    | nil =>
      obtain ⟨rfl, -⟩ := List.cons.inj he
      exact .inl ⟨hm, hs⟩
    | cons first before =>
      obtain ⟨rfl, rfl⟩ := List.cons.inj he
      rw [List.flatMap_cons, Step.runAll_append hu] at hs
      exact .inr ⟨before, m, after, rfl, hm, hs⟩
  · rintro (⟨hm, hs⟩ | ⟨before, m, after, rfl, hm, hs⟩)
    · exact ⟨[], member, members, rfl, hm, hs⟩
    · refine ⟨member :: before, m, after, rfl, hm, ?_⟩
      rwa [List.flatMap_cons, Step.runAll_append hu]

variable {s t : Survey} {more : String → Prop}

/-- The reference that a declaration of its own makes to the crate of a member. -/
theorem Leads.root (h : s.Leads t more) {member : Node} (hm : member.Legible) :
    ∃ u, Step.runAll (Outline.useRoot member) t = (none, u) ∧
      s.Leads u fun name =>
        more name ∨ (member.useCrate? = some name ∧ s.scopes.isShadowed name = false) := by
  rcases Outline.useRoot_eq_useCrate hm with ⟨ho, hc⟩ | ⟨crate, line, ho, hc⟩
  · rw [ho, hc]
    exact ⟨t, rfl, h.of_iff fun name => by simp⟩
  · rw [ho, hc]
    refine ⟨_, rfl, (h.ahead crate (some line)).of_iff fun name => ?_⟩
    cases isPathKeyword crate with
    | true => simp
    | false =>
      simp only [Bool.false_eq_true, if_false, true_and, Option.some.injEq]
      refine or_congr_right ⟨?_, ?_⟩
      · rintro ⟨rfl, hs⟩
        exact ⟨rfl, hs⟩
      · rintro ⟨rfl, hs⟩
        exact ⟨rfl, hs⟩

/-- By induction on the members: read with the crates that they begin with, they lead by the crates
that are skipped without. -/
theorem Leads.members (h : s.Leads t more) {members : List Node}
    (hm : ∀ n ∈ members, n.Legible) :
    ∃ u v, Step.runAll (members.flatMap Outline.useNames) s = (none, u) ∧
      Step.runAll (members.flatMap fun n => Outline.useRoot n ++ Outline.useNames n) t =
        (none, v) ∧
      u.Leads v fun name => more name ∨ s.Skips members name := by
  induction members generalizing s t more with
  | nil => exact ⟨s, t, rfl, rfl, h.of_iff fun name => by simp [skips_nil]⟩
  | cons member members ih =>
    have hone := hm member List.mem_cons_self
    obtain ⟨t₁, ht₁, hroot⟩ := h.root hone
    obtain ⟨s₂, t₂, hs₂, ht₂, hnames⟩ := hroot.runAll (Outline.isFlat_useNames member hone)
    obtain ⟨u, v, hu, hv, hrest⟩ := ih hnames fun n hn => hm n (List.mem_cons_of_mem _ hn)
    refine ⟨u, v, ?_, ?_, hrest.of_iff fun name => ?_⟩
    · rw [List.flatMap_cons, Step.runAll_append hs₂, hu]
    · rw [List.flatMap_cons, List.append_assoc, Step.runAll_append ht₁,
        Step.runAll_append ht₂, hv]
    · rw [skips_cons hs₂, or_assoc]

end Survey

namespace Outline

/-- A group without a path before it says what its members bring, and refers to none of the crates
that they begin with. -/
theorem ofNode_bareGroup {members : List Node} {n : Node}
    (h : n.UsesArgument (·.IsBareGroup members)) (p : Place) (after : List Node) :
    ofNode false p after n = members.flatMap useNames := by
  obtain ⟨kind, -, tree, ht, hg⟩ := h
  rw [ofNode_eq, kind]
  simp only [ht, Option.elim_some]
  rcases hg with ⟨hkind, rfl⟩ | ⟨hkind, hpath, items, hitems, hlist, rfl⟩
  · rw [useNames_list hkind, useRoot, hkind]
    rfl
  · rw [useNames_eq, useRoot, hkind]
    simp only [hpath, hitems, referringFirst, Option.elim_some, Option.elim_none,
      useNamesAt_children, useNames_list hlist, List.nil_append]

theorem ofChildren_declarations {members declarations : List Node}
    (h : List.Forall₂ (fun member (n : Node) => n.UsesArgument (· = member.asArgument))
      members declarations) (p : Place) :
    ofChildren .every p declarations = members.flatMap fun n => useRoot n ++ useNames n := by
  induction h generalizing p with
  | nil => rfl
  | @cons member n members declarations hn _ ih =>
    obtain ⟨kind, named, tree, ht, rfl⟩ := hn
    rw [ofChildren_every_cons, if_pos named, List.flatMap_cons, ih, ofNode_eq, kind]
    simp only [ht, Option.elim_some, useRoot_asArgument, useNames_asArgument]

end Outline

/-- What a group without a path before it loses against a declaration for each of its members: from
every state both are read to the end and hide the same names, and the declarations find in addition,
for the builds of the scope they stand in, the crates that the members begin with. So no crate is
lost exactly when each of these is known by the end of the group anyway. -/
theorem Survey.bareGroup_against_declarations {members declarations : List Node} {group : Node}
    (hg : group.UsesArgument (·.IsBareGroup members))
    (hd : List.Forall₂ (fun member (n : Node) => n.UsesArgument (· = member.asArgument))
      members declarations)
    (hm : ∀ n ∈ members, ∀ m ∈ n.preorder, m.text.isSome = true)
    (p q : Outline.Place) (after : List Node) (s : Survey) :
    ∃ t u, Step.runAll (Outline.ofNode false p after group) s = (none, t) ∧
      Step.runAll (Outline.ofChildren .every q declarations) s = (none, u) ∧
      (∀ name, u.scopes.isShadowed name = t.scopes.isShadowed name) ∧
      (∀ build name, name ∈ u.ledger.names build ↔
        name ∈ t.ledger.names build ∨ (build = s.build ∧ s.Skips members name)) ∧
      ((∀ build name, name ∈ t.ledger.names build ↔ name ∈ u.ledger.names build) ↔
        ∀ name, s.Skips members name → name ∈ t.ledger.names s.build) := by
  obtain ⟨t, u, ht, hu, hleads⟩ :=
    (Leads.refl s).members fun n hn => Node.legible_of_isSome (hm n hn)
  have hbuild : t.build = s.build := by
    have hg := Step.grows_runAll s (members.flatMap Outline.useNames)
    rw [ht] at hg
    rw [Survey.build, Survey.build, hg.isTestOnly_eq]
  have hnames : ∀ build name, name ∈ u.ledger.names build ↔
      name ∈ t.ledger.names build ∨ (build = s.build ∧ s.Skips members name) := by
    intro build name
    rw [hleads.names, hbuild, false_or]
  refine ⟨t, u, ?_, ?_, hleads.hidden, hnames, ?_, ?_⟩
  · rw [Outline.ofNode_bareGroup hg, ht]
  · rw [Outline.ofChildren_declarations hd, hu]
  · intro hsame name hskips
    exact (hsame s.build name).mpr ((hnames s.build name).mpr (.inr ⟨rfl, hskips⟩))
  · intro hknown build name
    rw [hnames]
    constructor
    · exact .inl
    · rintro (h | ⟨rfl, h⟩)
      · exact h
      · exact hknown name h

open Node in
/-- `use {rand as r, serde::de};` finds `rand`, which it renames, and not `serde`. -/
theorem Survey.bareGroup_skips_serde :
    let declaration := fun argument : Node => worded .useDeclaration none "" [argument]
    let members := [
      worded .useAsClause none "" [worded .identifier (some "path") "rand" [],
        worded .identifier (some "alias") "r" []],
      twoSegments none "serde" "de"]
    let group := declaration (worded .useList (some "argument") "" members)
    let declarations := members.map fun n => declaration n.asArgument
    group.UsesArgument (·.IsBareGroup members) ∧
      List.Forall₂ (fun member (n : Node) => n.UsesArgument (· = member.asArgument))
        members declarations ∧
      (∀ n ∈ members, ∀ m ∈ n.preorder, m.text.isSome = true) ∧
      ∃ t u, Step.runAll (Outline.ofNode false {} [] group) {} = (none, t) ∧
        Step.runAll (Outline.ofChildren .every {} declarations) {} = (none, u) ∧
        t.ledger.normal = ["rand"] ∧ "serde" ∈ u.ledger.names .normal := by
  intro declaration members group declarations
  have hg : group.UsesArgument (·.IsBareGroup members) := ⟨rfl, rfl, _, rfl, .inl ⟨rfl, rfl⟩⟩
  have hd : List.Forall₂ (fun member (n : Node) => n.UsesArgument (· = member.asArgument))
      members declarations :=
    .cons ⟨rfl, rfl, _, rfl, rfl⟩ (.cons ⟨rfl, rfl, _, rfl, rfl⟩ .nil)
  have hm : ∀ n ∈ members, ∀ m ∈ n.preorder, m.text.isSome = true := by decide
  obtain ⟨t, u, ht, hu, -, hnames, -⟩ := bareGroup_against_declarations hg hd hm {} {} [] {}
  have hskips : ({} : Survey).Skips members "serde" :=
    ⟨[_], _, [], rfl, rfl, rfl⟩
  refine ⟨hg, hd, hm, t, u, ht, hu, ?_, (hnames .normal "serde").mpr (.inr ⟨rfl, hskips⟩)⟩
  have hnormal : (Step.runAll (Outline.ofNode false {} [] group) {}).2.ledger.normal =
      ["rand"] := by rfl
  rw [ht] at hnormal
  exact hnormal

open Node in
/-- Neither `use {serde::Deserialize, rand::Rng};` nor `use ::{serde::Deserialize, rand::Rng};`
finds a crate, and the declarations `use serde::Deserialize;` and `use rand::Rng;` find two. -/
theorem Survey.bareGroup_loses_crates :
    let declaration := fun argument : Node => worded .useDeclaration none "" [argument]
    let members := [twoSegments none "serde" "Deserialize", twoSegments none "rand" "Rng"]
    let group := declaration (worded .useList (some "argument") "" members)
    let rooted := declaration (worded .scopedUseList (some "argument") ""
      [worded .useList (some "list") "" members])
    let declarations := members.map fun n => declaration n.asArgument
    group.UsesArgument (·.IsBareGroup members) ∧ rooted.UsesArgument (·.IsBareGroup members) ∧
      List.Forall₂ (fun member (n : Node) => n.UsesArgument (· = member.asArgument))
        members declarations ∧
      (Step.runAll (Outline.ofNode false {} [] group) {}).2.ledger.normal = [] ∧
      (Step.runAll (Outline.ofNode false {} [] rooted) {}).2.ledger.normal = [] ∧
      (Step.runAll (Outline.ofChildren .every {} declarations) {}).2.ledger.normal =
        ["serde", "rand"] := by
  refine ⟨⟨rfl, rfl, _, rfl, .inl ⟨rfl, rfl⟩⟩,
    ⟨rfl, rfl, _, rfl, .inr ⟨rfl, rfl, _, rfl, rfl, rfl⟩⟩, ?_, rfl, rfl, rfl⟩
  exact .cons ⟨rfl, rfl, _, rfl, rfl⟩ (.cons ⟨rfl, rfl, _, rfl, rfl⟩ .nil)

end CrateUsage
