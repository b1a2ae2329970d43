import CrateUsage.Proofs.Attributes
import CrateUsage.Proofs.Rows
import CrateUsage.Proofs.Unwinding

namespace CrateUsage

mutual
def Step.gaps : Step → List Kind
  | .refer _ _ | .declare _ => []
  | .unreadable kind => [kind]
  | .scope _ body => gapsAll body
  | .function name markers body =>
    (match name with
      | some (.error kind) => [kind]
      | _ => [])
      ++ (match markers with
        | .error kind => [kind]
        | .ok _ => [])
      ++ gapsAll body

def Step.gapsAll : List Step → List Kind
  | [] => []
  | step :: steps => step.gaps ++ gapsAll steps
end

theorem Step.gapsAll_append (a b : List Step) :
    Step.gapsAll (a ++ b) = Step.gapsAll a ++ Step.gapsAll b := by
  induction a with
  | nil => rfl
  | cons step steps ih => simp [Step.gapsAll, ih]

theorem Survey.gap_of_enterFunction {s : Survey} {name : Option (Except Kind String)}
    {markers : Except Kind Markers} {fault : Fault} (body : List Step)
    (h : s.enterFunction name markers = .error fault) :
    ∃ kind ∈ (Step.function name markers body).gaps, fault = .noText kind := by
  simp only [Step.gaps]
  unfold enterFunction at h
  split at h
  · rename_i kind hn
    cases h
    split at hn
    · subst hn
      exact ⟨kind, by simp, rfl⟩
    · cases hn
  · cases h
  · split at h
    · rename_i kind
      cases h
      exact ⟨kind, by simp, rfl⟩
    · cases h

mutual
/-- A step stops only at a node without text. Nothing else can go wrong, since every scope that is
closed was opened before. -/
theorem Step.gap_of_run {s : Survey} {fault : Fault} :
    ∀ step : Step, (step.run s).1 = some fault → ∃ kind ∈ step.gaps, fault = .noText kind
  | .refer _ _, h => by cases h
  | .declare _, h => by cases h
  | .unreadable kind, h => by
    cases h
    exact ⟨kind, List.mem_singleton.mpr rfl, rfl⟩
  | .scope marked body, h => by
    simp only [Step.run] at h
    rw [(Survey.grows_close (Step.grows_runAll (s.push marked) body) _).2] at h
    exact Step.gap_of_runAll body h
  | .function name markers body, h => by
    simp only [Step.run] at h
    split at h
    · rename_i he
      cases h
      exact Survey.gap_of_enterFunction body he
    · rename_i isTest t he
      rw [(Survey.grows_close (Step.grows_runAll (t.push isTest) body) _).2] at h
      obtain ⟨kind, hk, hf⟩ := Step.gap_of_runAll body h
      exact ⟨kind, List.mem_append_right _ hk, hf⟩

theorem Step.gap_of_runAll {s : Survey} {fault : Fault} :
    ∀ steps : List Step, (Step.runAll steps s).1 = some fault →
      ∃ kind ∈ Step.gapsAll steps, fault = .noText kind
  | [], h => by cases h
  | step :: steps, h => by
    simp only [Step.runAll] at h
    split at h
    · obtain ⟨kind, hk, hf⟩ := Step.gap_of_runAll steps h
      exact ⟨kind, List.mem_append_right _ hk, hf⟩
    · obtain ⟨kind, hk, hf⟩ := Step.gap_of_run step h
      exact ⟨kind, List.mem_append_left _ hk, hf⟩
end

/-- Every kind that an outline may stop at is explained by `P`. -/
def Explained (P : Kind → Prop) (o : Outline) : Prop := ∀ kind ∈ Step.gapsAll o, P kind

namespace Outline

variable {P : Kind → Prop}

theorem explained_nil : Explained P [] := fun _ h => by cases h

theorem explained_append {a b : Outline} :
    Explained P (a ++ b) ↔ Explained P a ∧ Explained P b := by
  simp only [Explained, Step.gapsAll_append, List.mem_append]
  constructor
  · intro h
    exact ⟨fun kind hk => h kind (.inl hk), fun kind hk => h kind (.inr hk)⟩
  · rintro ⟨ha, hb⟩ kind (hk | hk)
    · exact ha kind hk
    · exact hb kind hk

theorem explained_flatMap {α : Type} {as : List α} {f : α → Outline}
    (h : ∀ a ∈ as, Explained P (f a)) : Explained P (as.flatMap f) := by
  induction as with
  | nil => exact explained_nil
  | cons a as ih =>
    exact explained_append.mpr
      ⟨h a List.mem_cons_self, ih fun b hb => h b (List.mem_cons_of_mem _ hb)⟩

theorem explained_readingOf {n : Option Node} {say : String → Step}
    (hn : ∀ m, n = some m → m.Accounts P) (hs : ∀ text, (say text).gaps = []) :
    Explained P (readingOf n say) := by
  cases n with
  | none => exact explained_nil
  | some n =>
    intro kind hk
    simp only [readingOf, reading] at hk
    split at hk
    · simp [Step.gapsAll, hs] at hk
    · rename_i he
      simp only [Step.gapsAll, Step.gaps, List.append_nil, List.mem_singleton] at hk
      subst hk
      exact (hn n rfl).read he

theorem explained_declaring {n : Option Node} (hn : ∀ m, n = some m → m.Accounts P) :
    Explained P (declaring n) :=
  explained_readingOf hn fun _ => rfl

theorem explained_referring {segment : Option Node} (at_ : Node)
    (hn : ∀ m, segment = some m → m.Accounts P) : Explained P (referring segment at_) :=
  explained_readingOf hn fun _ => rfl

theorem explained_referringFirst {path : Option Node} (hn : ∀ m, path = some m → m.Accounts P) :
    Explained P (referringFirst path) := by
  cases path with
  | none => exact explained_nil
  | some path => exact explained_referring path fun m hm => (hn path rfl).firstSegment? hm

theorem explained_useRoot {tree : Node} (h : tree.Accounts P) : Explained P (useRoot tree) := by
  unfold useRoot
  split
  · exact explained_referringFirst fun m hm => Option.some.inj hm ▸ h
  · exact explained_referringFirst fun m hm => Option.some.inj hm ▸ h
  · exact explained_referringFirst fun m hm => h.child? hm
  · exact explained_referringFirst fun m hm => h.child? hm
  · refine explained_referringFirst fun m hm => h.child ?_
    exact Node.mem_children_of_namedChildren (List.mem_of_head? hm)
  · exact explained_nil

theorem explained_declaringLast {path : Node} (h : path.Accounts P) :
    Explained P (declaringLast path) := by
  unfold declaringLast
  split
  · exact explained_nil
  · rename_i segment hs
    split
    · split
      · exact explained_nil
      · intro kind hk
        cases hk
    · rename_i he
      intro kind hk
      simp only [Step.gapsAll, Step.gaps, List.append_nil, List.mem_singleton] at hk
      subst hk
      exact (h.lastSegment? hs).read he

theorem explained_declaringGroup {path : Node} (items : Node) (h : path.Accounts P) :
    Explained P (declaringGroup path items) := by
  unfold declaringGroup
  split
  · exact explained_declaring fun m hm => h.lastSegment? hm
  · exact explained_nil

mutual
theorem explained_useNames : ∀ n : Node, n.Accounts P → Explained P (useNames n)
  | .mk l cs, h => by
    have hc : ∀ c ∈ cs, c.Accounts P := fun c hc => h.child hc
    unfold useNames
    split
    · exact explained_declaring fun m hm => Option.some.inj hm ▸ h
    · exact explained_declaringLast h
    · refine explained_append.mpr ⟨?_, explained_declaring fun m hm => h.child? hm⟩
      split
      · rename_i path hp
        exact explained_referring path fun m hm => (h.child? hp).lastSegment? hm
      · exact explained_nil
    · split
      · rename_i path items hp hi
        exact explained_append.mpr
          ⟨explained_declaringGroup items (h.child? hp), explained_useNamesAt "list" cs hc⟩
      · exact explained_useNamesAt "list" cs hc
      · exact explained_nil
    · exact explained_useNamesOf cs hc
    · exact explained_nil

theorem explained_useNamesOf : ∀ ns : List Node, (∀ n ∈ ns, n.Accounts P) →
    Explained P (useNamesOf ns)
  | [], _ => explained_nil
  | n :: ns, h => by
    unfold useNamesOf
    refine explained_append.mpr
      ⟨?_, explained_useNamesOf ns fun m hm => h m (List.mem_cons_of_mem _ hm)⟩
    split
    · exact explained_useNames n (h n List.mem_cons_self)
    · exact explained_nil

theorem explained_useNamesAt (field : String) : ∀ ns : List Node, (∀ n ∈ ns, n.Accounts P) →
    Explained P (useNamesAt field ns)
  | [], _ => explained_nil
  | n :: ns, h => by
    unfold useNamesAt
    split
    · exact explained_useNames n (h n List.mem_cons_self)
    · exact explained_useNamesAt field ns fun m hm => h m (List.mem_cons_of_mem _ hm)
end

def Place.Explained (P : Kind → Prop) (p : Place) : Prop :=
  ∀ a ∈ p.attributes, a.1.Accounts P ∧ CrateUsage.Explained P a.2

theorem Place.explained_below (p : Place) (kind : Kind) : (p.below kind).Explained P :=
  fun _ h => by cases h

theorem Place.Explained.attributesSay {p : Place} (h : p.Explained P) :
    CrateUsage.Explained P (attributesSay p) :=
  explained_flatMap fun a ha => (h a ha).2

theorem Place.Explained.behind {p : Place} {n : Node} (h : p.Explained P)
    (ha : ∀ a ∈ ofAttributes p.above n.children, a.1.Accounts P ∧ CrateUsage.Explained P a.2) :
    (p.behind n).Explained P := by
  unfold Place.behind
  split
  · exact h
  · split
    · intro a hm
      rcases List.mem_append.mp hm with hm | hm
      · exact h a hm
      · exact ha a (List.mem_reverse.mp hm)
    · intro a hm
      cases hm

theorem Place.Explained.markers {p : Place} (h : p.Explained P) {kind : Kind}
    (he : markers p = .error kind) : P kind := by
  refine (answers_markers _).of_error he ?_
  intro m hm
  obtain ⟨a, ha, hm⟩ := List.mem_flatMap.mp hm
  obtain ⟨pair, hp, rfl⟩ := List.mem_map.mp ha
  exact (h pair hp).1 m hm

theorem explained_unreadable {kind : Kind} (h : P kind) : Explained P [.unreadable kind] := by
  intro k hk
  simp only [Step.gapsAll, Step.gaps, List.append_nil, List.mem_singleton] at hk
  exact hk ▸ h

theorem explained_scope {marked : Bool} {body : Outline} (h : Explained P body) :
    Explained P [.scope marked body] := by
  intro kind hk
  simp only [Step.gapsAll, Step.gaps, List.append_nil] at hk
  exact h kind hk

theorem explained_function {name : Option Node} {markers : Except Kind Markers} {body : Outline}
    (hn : ∀ m, name = some m → m.Accounts P) (hm : ∀ kind, markers = .error kind → P kind)
    (hb : Explained P body) : Explained P [.function (name.map Node.read) markers body] := by
  intro kind hk
  simp only [Step.gapsAll, Step.gaps, List.append_nil, List.mem_append] at hk
  rcases hk with (hk | hk) | hk
  · cases name with
    | none => cases hk
    | some n =>
      cases hr : n.read with
      | ok text => simp [hr] at hk
      | error k =>
        simp only [Option.map_some, hr, List.mem_singleton] at hk
        exact hk ▸ (hn n rfl).read hr
  · cases markers with
    | ok m => cases hk
    | error k =>
      rw [List.mem_singleton.mp hk]
      exact hm k rfl
  · exact hb kind hk

mutual
/-- By induction on the tree, together for a node, a row of children and a row of attributes:
whatever is read of a node is read of a node of its tree or of an attribute before it. -/
theorem explained_ofNode (asPath : Bool) (p : Place) (after : List Node) : ∀ n : Node,
    n.Accounts P → p.Explained P → Explained P (ofNode asPath p after n)
  | .mk l cs, h, hp => by
    have hc : ∀ c ∈ cs, c.Accounts P := fun c hc => h.child hc
    have hb := fun choice kind =>
      explained_ofChildren choice (p.below kind) cs hc (p.explained_below kind)
    have hpath : ∀ kind, Explained P
        ((match asPath, (Node.mk l cs).segments with
          | false, first :: _ :: _ => referring (some first) first
          | _, _ => [])
          ++ ofChildren (.pathField "path") (p.below kind) cs) := by
      intro kind
      refine explained_append.mpr ⟨?_, hb _ _⟩
      split
      · rename_i first _ _ hs
        have hm := Node.mem_preorder_of_segments (.mk l cs) (hs ▸ List.mem_cons_self)
        exact explained_referring first fun m he => Option.some.inj he ▸ h.mem hm
      · exact explained_nil
    unfold ofNode
    split
    · exact explained_nil
    · split
      · split
        · rename_i tree ht
          exact explained_append.mpr
            ⟨explained_useRoot (h.child? ht), explained_useNames tree (h.child? ht)⟩
        · exact explained_nil
      · split
        · rename_i name hn
          exact explained_referring name fun m hm => Option.some.inj hm ▸ h.child? hn
        · exact explained_nil
      · exact hpath _
      · exact hpath _
      · split
        · exact explained_append.mpr ⟨hb _ _, hb _ _⟩
        · exact hb _ _
      · exact hb _ _
      · split
        · exact explained_nil
        · exact hb _ _
      · exact explained_scope (hb _ _)
      · split
        · rename_i he
          exact explained_unreadable (hp.markers he)
        · exact explained_append.mpr ⟨explained_declaring fun m hm => h.child? hm,
            explained_scope (explained_append.mpr ⟨hp.attributesSay, hb _ _⟩)⟩
      · split
        · exact explained_function (fun m hm => h.child? hm) (fun _ he => hp.markers he)
            (explained_append.mpr ⟨hp.attributesSay, hb _ _⟩)
        · exact hb _ _
      · exact hb _ _

theorem explained_ofChildren (choice : Choice) (p : Place) : ∀ ns : List Node,
    (∀ n ∈ ns, n.Accounts P) → p.Explained P → Explained P (ofChildren choice p ns)
  | [], _, _ => explained_nil
  | .mk l cs :: after, h, hp => by
    have hn := h (.mk l cs) List.mem_cons_self
    have hsaid := explained_ofNode choice.asPath p after (.mk l cs) hn hp
    have hbehind : (p.behind (.mk l cs)).Explained P :=
      hp.behind (explained_ofAttributes p.above cs fun c hc => hn.child hc)
    have hrest := explained_ofChildren choice (p.behind (.mk l cs)) after
      (fun n hm => h n (List.mem_cons_of_mem _ hm)) hbehind
    by_cases he : choice = .every
    · subst he
      rw [ofChildren_every_cons]
      refine explained_append.mpr ⟨?_, hrest⟩
      split
      · exact hsaid
      · exact explained_nil
    · rw [ofChildren_cons he]
      split
      · exact hsaid
      · exact hrest

theorem explained_ofAttributes (above : List Kind) : ∀ ns : List Node,
    (∀ n ∈ ns, n.Accounts P) → ∀ a ∈ ofAttributes above ns, a.1.Accounts P ∧ Explained P a.2
  | [], _ => fun _ h => by cases h
  | .mk l cs :: after, h => by
    have hn := h (.mk l cs) List.mem_cons_self
    intro a hm
    rw [ofAttributes_cons] at hm
    rcases List.mem_append.mp hm with hm | hm
    · split at hm
      · rw [List.mem_singleton.mp hm]
        refine ⟨hn, explained_ofChildren .first _ cs (fun c hc => hn.child hc) ?_⟩
        intro b hb
        cases hb
      · cases hm
    · exact explained_ofAttributes above after (fun n hb => h n (List.mem_cons_of_mem _ hb)) a hm
end

/-- An outline may stop only at kinds of nodes without text in the tree. -/
theorem explained_outline {root : Node} (h : root.Accounts P) : Explained P root.outline :=
  explained_ofNode false {} [] root h fun _ ha => by cases ha

end Outline

namespace Node

theorem survey_eq (root : Node) : root.survey = Step.runAll root.outline {} := by
  have hg := Step.grows_runAll {} root.outline
  unfold survey
  split
  · rename_i s hs
    rw [hs] at hg
    have hr : s.scopes.isRoot = true := hg.isRoot_eq
    rw [hr, hs]
    rfl
  · rfl

/-- A survey stops nowhere but at a node without text. -/
theorem textless_of_discover {root : Node} {fault : Fault} (h : root.discover = .error fault) :
    ∃ m ∈ root.preorder, m.text = none ∧ fault = .noText m.kind := by
  unfold discover at h
  rw [survey_eq] at h
  cases hr : Step.runAll root.outline {} with
  | mk stop s =>
    rw [hr] at h
    cases stop with
    | none => cases h
    | some f =>
      cases h
      obtain ⟨kind, hk, hf⟩ := Step.gap_of_runAll root.outline (congrArg Prod.fst hr)
      have hx : Explained (fun kind => ∃ m ∈ root.preorder, m.text = none ∧ m.kind = kind)
          root.outline :=
        Outline.explained_outline fun m hm ht => ⟨m, hm, ht, rfl⟩
      obtain ⟨m, hm, ht, rfl⟩ := hx kind hk
      exact ⟨m, hm, ht, hf⟩

theorem discover_isOk {root : Node} (h : ∀ m ∈ root.preorder, m.text.isSome = true) :
    ∃ d, root.discover = .ok d := by
  cases hd : root.discover with
  | ok d => exact ⟨d, rfl⟩
  | error fault =>
    obtain ⟨m, hm, ht, -⟩ := textless_of_discover hd
    simpa [ht] using h m hm

/-- Whatever a node says and wherever it stands, reading it leaves the scopes as deep as they were
and changes them by nothing but names at the end of the innermost frame, also where the reading
stops midway. So a whole tree is read to its end or up to a node without text, and to its end where
every node has one. -/
theorem reading_unwinds :
    (∀ (asPath : Bool) (p : Outline.Place) (after : List Node) (n : Node) (s : Survey),
      s.scopes.Grows (Step.runAll (Outline.ofNode asPath p after n) s).2.scopes) ∧
    (∀ (root : Node) (fault : Fault), root.discover = .error fault →
      fault ≠ .rootScope ∧ fault ≠ .openScopes ∧
      ∃ m ∈ root.preorder, m.text = none ∧ fault = .noText m.kind ∧
        fault.message = m.kind.name ++ " node has no text") ∧
    (∀ root : Node, (∀ m ∈ root.preorder, m.text.isSome = true) →
      ∃ d, root.discover = .ok d) := by
  refine ⟨?_, ?_, fun root h => discover_isOk h⟩
  · intro asPath p after n s
    exact Step.grows_runAll s _
  · intro root fault h
    obtain ⟨m, hm, ht, rfl⟩ := textless_of_discover h
    refine ⟨by simp, by simp, m, hm, ht, rfl, ?_⟩
    simp [Fault.message, toString]

/-- An `extern crate` without a name text within a block: the reading stops there, and no scope is
left open that could be noticed. -/
theorem discover_nameless :
    let nameless := mk { kind := .identifier, field := some "name" } []
    let root := worded .sourceFile none "" [
      worded .block none "" [worded .externCrateDeclaration none "" [nameless]]]
    root.discover = .error (.noText .identifier) ∧
      (Fault.noText .identifier).message = "identifier node has no text" ∧
      ∃ m ∈ root.preorder, m.text = none := by
  intro nameless root
  have hd : root.discover = .error (.noText .identifier) := by rfl
  obtain ⟨-, -, m, hm, ht, hk, hmessage⟩ := reading_unwinds.2.1 root _ hd
  rw [← Fault.noText.inj hk] at hmessage
  exact ⟨hd, hmessage.trans (by decide), m, hm, ht⟩

end Node
end CrateUsage
