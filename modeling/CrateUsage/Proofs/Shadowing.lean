import CrateUsage.Proofs.Meaning

namespace CrateUsage

def Hides (name : String) (visible more : List String) : Prop :=
  ∀ n, more.contains n = (decide (n = name) || visible.contains n)

structure Reading.Misses (name : String) (r q : Reading) : Prop where
  emitted : q.emitted = r.emitted.filter (·.name ≠ name)
  visible : Hides name r.visible q.visible
  hints : q.hints = r.hints

namespace Meaning

/-- Where one more name is local, the references to it are missed, and nothing else. -/
def Yields (m : Meaning) : Prop :=
  ∀ (name : String) (c : Setting) {visible more : List String}, Hides name visible more →
    (m c visible).Misses name (m c more)

variable {a b : Meaning}

theorem yields_nothing : Yields nothing := fun _ _ _ _ h => ⟨rfl, h, rfl⟩

theorem yields_emit (name : String) (line : Int) : Yields (emit name line) := by
  intro hidden c visible more h
  refine ⟨?_, h, rfl⟩
  unfold emit
  rw [h name]
  cases isPathKeyword name with
  | true => rfl
  | false =>
    cases visible.contains name with
    | true => simp
    | false => by_cases hn : name = hidden <;> simp [hn]

theorem yields_bring (name : String) : Yields (bring name) := by
  intro hidden c visible more h
  refine ⟨rfl, ?_, rfl⟩
  intro n
  have hn := h n
  simp only [bring, List.contains_cons]
  rw [hn, Bool.or_left_comm]

theorem Yields.andThen (ha : Yields a) (hb : Yields b) : Yields (a.andThen b) := by
  intro name c visible more h
  obtain ⟨ae, av, ah⟩ := ha name c h
  obtain ⟨be, bv, bh⟩ := hb name c av
  refine ⟨?_, bv, ?_⟩
  · simp only [Meaning.andThen, ae, be, List.filter_append]
  · simp only [Meaning.andThen, ah, bh]

theorem Yields.enclosed (ha : Yields a) (marked : Bool) : Yields (.enclosed marked a) := by
  intro name c visible more h
  obtain ⟨ae, -, ah⟩ := ha name (c.within marked) h
  exact ⟨ae, h, ah⟩

theorem Yields.telling (ha : Yields a) (hints : Hints) : Yields (.telling hints a) := by
  intro name c visible more h
  obtain ⟨ae, av, ah⟩ := ha name c h
  exact ⟨ae, av, congrArg hints.join ah⟩

theorem Yields.freeFunction (ha : Yields a) (name : Option String) (markers : Markers) :
    Yields (.freeFunction name markers a) := by
  intro hidden c visible more h
  unfold Meaning.freeFunction
  split
  · exact (ha.enclosed false).telling _ hidden c h
  · exact (ha.enclosed markers.isTest).telling _ hidden c h

end Meaning

mutual
/-- By induction on the steps: what is declared later, opened or closed makes no difference to
which name it is that the longer list has more. -/
theorem Step.yields_meaning : ∀ step : Step, step.meaning.Yields
  | .refer name line => Meaning.yields_emit name line
  | .declare name => Meaning.yields_bring name
  | .unreadable _ => Meaning.yields_nothing
  | .scope marked body => (Step.yields_meaningAll body).enclosed marked
  | .function _ _ body => (Step.yields_meaningAll body).freeFunction _ _

theorem Step.yields_meaningAll : ∀ steps : List Step, (Step.meaningAll steps).Yields
  | [] => Meaning.yields_nothing
  | step :: steps => (Step.yields_meaning step).andThen (Step.yields_meaningAll steps)
end

namespace Ledger

/-- Entering nothing of one name is leaving out what was entered of it. -/
theorem records_enterAll_without (rs : List Record) (name : String) :
    (({} : Ledger).enterAll (rs.filter (·.name ≠ name))).records =
      (({} : Ledger).enterAll rs).records.filter (·.name ≠ name) := by
  rw [records_enterAll_empty, records_enterAll_empty]
  exact (firstSightings_filter_of_repeats
    (fun _ _ h => by rw [(Record.repeats_iff.mp h).1]) rs).symm

theorem names_enterAll_without (rs : List Record) (name : String) (build : Build) :
    (({} : Ledger).enterAll (rs.filter (·.name ≠ name))).names build =
      ((({} : Ledger).enterAll rs).names build).filter (· ≠ name) := by
  rw [(balanced_empty.enterAll _).names_eq, (balanced_empty.enterAll _).names_eq,
    records_enterAll_without, List.filter_map, List.filter_filter, List.filter_filter]
  simp only [Bool.and_comm, Function.comp_def]

end Ledger

namespace Outline

/-- A row of nodes that say nothing says nothing. -/
theorem ofChildren_every_eq_nil {ns : List Node}
    (h : ∀ n ∈ ns, n.named = true → ∀ p after, ofNode false p after n = []) (p : Place) :
    ofChildren .every p ns = [] := by
  induction ns generalizing p with
  | nil => rfl
  | cons n ns ih =>
    rw [ofChildren_every_cons, ih fun m hm => h m (List.mem_cons_of_mem _ hm), List.append_nil]
    split
    · rename_i hn
      exact h n List.mem_cons_self hn p ns
    · rfl

end Outline

namespace Node

/-- The declaration `mod name;`. Beside its tokens it has a leaf for its name and no other child. -/
structure DeclaresModule (name : String) (m : Node) : Prop where
  kind : m.kind = .modItem
  named : m.named = true
  only : ∃ leaf, m.namedChildren = [leaf] ∧ m.child? "name" = some leaf ∧
    leaf.kind = .identifier ∧ leaf.children = [] ∧ leaf.text = some name

open Outline in
theorem DeclaresModule.ofNode_eq {name : String} {m : Node} (h : m.DeclaresModule name)
    (above : List Kind) (after : List Node) :
    ofNode false { above } after m = [.declare name, .scope false []] := by
  obtain ⟨leaf, honly, hname, hkind, hleaf, htext⟩ := h.only
  have hsilent : ∀ n ∈ m.children, n.named = true → ∀ p after, ofNode false p after n = [] := by
    intro n hn hnamed p after
    have hm : n ∈ m.namedChildren := List.mem_filter.mpr ⟨hn, hnamed⟩
    rw [honly, List.mem_singleton] at hm
    rw [hm, Outline.ofNode_eq, hkind, hleaf]
    rfl
  rw [Outline.ofNode_eq, h.kind]
  dsimp only
  rw [ofChildren_every_eq_nil hsilent, hname]
  simp [markers, Markers.ofAttributes, Attribute.anyCfgTest, declaring, readingOf, Outline.reading,
    read, htext, attributesSay, pure, Except.pure, bind, Except.bind]

theorem DeclaresModule.outline_eq {name : String} {m : Node} (h : m.DeclaresModule name)
    {l : Label} (hl : l.kind = .sourceFile) (cs : List Node) :
    (Node.mk l (m :: cs)).outline =
      .declare name :: .scope false [] :: (Node.mk l cs).outline := by
  have hbehind :
      (({} : Outline.Place).below l.kind).behind m = ({} : Outline.Place).below l.kind := by
    simp [Outline.Place.behind, h.kind, h.named, Kind.isComment, Outline.Place.below]
  unfold outline
  rw [Outline.ofNode_eq, Outline.ofNode_eq _ _ (Node.mk l cs)]
  simp only [Node.kind, label_mk, hl, children_mk]
  rw [hl] at hbehind
  rw [Outline.ofChildren_every_cons, hbehind, if_pos h.named]
  exact congrArg (· ++ _) (h.ofNode_eq _ cs)

/-- A local module hides the crate of its name and nothing else: with `mod name;` as its first child
a file comes to the same crates, in the same order and on the same lines, but the one of that name,
and to the same hints. -/
theorem discover_behind_module {l : Label} {cs : List Node} {m : Node} {name : String}
    (hl : l.kind = .sourceFile) (ht : ∀ n ∈ (mk l cs).preorder, n.text.isSome = true)
    (hm : m.DeclaresModule name) :
    ∃ d e, (mk l cs).discover = .ok d ∧ (mk l (m :: cs)).discover = .ok e ∧
      e.normal = d.normal.filter (· ≠ name) ∧ e.testOnly = d.testOnly.filter (· ≠ name) ∧
      e.records = d.records.filter (·.name ≠ name) ∧ e.hints = d.hints := by
  have hg := (legible_of_isSome ht).gapsAll_outline
  have ho := hm.outline_eq hl cs
  have hgm : Step.gapsAll (mk l (m :: cs)).outline = [] := by
    rw [ho]
    exact hg
  obtain ⟨s, hs, hsl, hsh⟩ := discover_of_gapless hg
  obtain ⟨t, hd, htl, hth⟩ := discover_of_gapless hgm
  have hmeaning : (Step.meaningAll (mk l cs).outline {} []).Misses name
      (Step.meaningAll (mk l (m :: cs)).outline {} []) := by
    have hides : Hides name [] [name] := by
      intro n
      simp
    obtain ⟨he, hv, hh⟩ := Step.yields_meaningAll (mk l cs).outline name {} hides
    rw [ho]
    refine ⟨he, hv, ?_⟩
    rw [← hh]
    simp [Step.meaningAll, Step.meaning, Meaning.andThen, Meaning.enclosed, Meaning.nothing,
      Meaning.bring, Hints.join]
  have hnames : ∀ build, t.ledger.names build = (s.ledger.names build).filter (· ≠ name) := by
    intro build
    rw [hsl, htl, hmeaning.emitted, Ledger.names_enterAll_without]
  refine ⟨_, _, hs, hd, hnames .normal, hnames .testOnly, ?_, ?_⟩
  · change t.ledger.records = s.ledger.records.filter _
    rw [hsl, htl, hmeaning.emitted, Ledger.records_enterAll_without]
  · change t.hints = s.hints
    rw [hsh, hth, hmeaning.hints]

/-- The module `regex` hides the crate `regex` also where the tests use it, and the crate `rand`
nowhere. -/
theorem discover_behind_regex :
    let leaf := worded .identifier (some "name") "regex" []
    let regex := worded .modItem none "mod regex;"
      [mk { kind := .other "mod", named := false } [], leaf,
        mk { kind := .other ";", named := false } []]
    let label : Label := { kind := .sourceFile, text := some "" }
    let cs := twoSegments none "rand" "random" :: twoSegments none "regex" "Regex" ::
      testModule [twoSegments none "regex" "Regex"]
    regex.DeclaresModule "regex" ∧ (∀ n ∈ (mk label cs).preorder, n.text.isSome = true) ∧
      ∃ d e, (mk label cs).discover = .ok d ∧ (mk label (regex :: cs)).discover = .ok e ∧
        d.normal = ["rand", "regex"] ∧ d.testOnly = ["regex"] ∧
        e.normal = ["rand"] ∧ e.testOnly = [] ∧ e.records = [⟨"rand", .normal, some 1⟩] := by
  intro leaf regex label cs
  have hm : regex.DeclaresModule "regex" := ⟨rfl, rfl, leaf, rfl, rfl, rfl, rfl, rfl⟩
  have ht : ∀ n ∈ (mk label cs).preorder, n.text.isSome = true := by decide
  obtain ⟨d, e, hd, he, hn, htest, hr, -⟩ := discover_behind_module (l := label) rfl ht hm
  have hfound : (mk label cs).discover = .ok
      { normal := ["rand", "regex"], testOnly := ["regex"],
        records := [⟨"rand", .normal, some 1⟩, ⟨"regex", .normal, some 1⟩,
          ⟨"regex", .testOnly, some 1⟩],
        hints := {} } := by rfl
  rw [hfound] at hd
  cases hd
  exact ⟨hm, ht, _, e, hfound, he, rfl, rfl, hn.trans (by decide), htest.trans (by decide),
    hr.trans (by decide)⟩

end Node
end CrateUsage
