import CrateUsage.Proofs.Usages

namespace CrateUsage

namespace Node

/-- No attribute at the end of a row waits for an item that may follow. -/
def IsSettled (row : List Node) : Prop :=
  ∀ last, (row.filter fun n => n.named && !n.kind.isComment).getLast? = some last →
    last.kind ≠ .attributeItem

section IsSettled

variable {n : Node} {row : List Node}

theorem isSettled_nil : IsSettled [] := by
  intro last hl
  cases hl

theorem IsSettled.tail (h : IsSettled (n :: row)) : IsSettled row := by
  intro last hl
  apply h
  rw [List.filter_cons]
  split
  · rw [List.getLast?_cons, hl]
    rfl
  · exact hl

/-- An attribute item in such a row has its item in the row. -/
theorem IsSettled.isSome_decorated? (h : IsSettled (n :: row)) (hn : n.named = true)
    (hk : n.kind = .attributeItem) : (decorated? row).isSome = true := by
  cases hd : decorated? row with
  | some item => rfl
  | none =>
    have hnone : ∀ m ∈ row, m.named = true → m.isDecoration = true := by
      intro m hm hnamed
      simpa using List.find?_eq_none.mp hd m (List.mem_filter.mpr ⟨hm, hnamed⟩)
    have hall : ∀ m ∈ (n :: row).filter (fun n => n.named && !n.kind.isComment),
        m.kind = .attributeItem := by
      intro m hm
      obtain ⟨hm, hp⟩ := List.mem_filter.mp hm
      simp only [Bool.and_eq_true, Bool.not_eq_true'] at hp
      rcases List.mem_cons.mp hm with rfl | hm
      · exact hk
      · simpa [isDecoration, hp.2] using hnone m hm hp.1
    have hfirst : (n :: row).filter (fun n => n.named && !n.kind.isComment) ≠ [] := by
      simp [hn, hk, Kind.isComment]
    have hlast := List.getLast?_eq_some_getLast hfirst
    exact absurd (hall _ (List.mem_of_getLast? hlast)) (h _ hlast)

theorem decorated?_append (row more : List Node) :
    decorated? (row ++ more) = (decorated? row).or (decorated? more) := by
  rw [decorated?, List.filter_append, List.find?_append]
  rfl

theorem isOwned_append (above : List Kind) (more : List Node)
    (h : (decorated? row).isSome = true) : isOwned above (row ++ more) = isOwned above row := by
  obtain ⟨item, hi⟩ := Option.isSome_iff_exists.mp h
  rw [isOwned, isOwned, decorated?_append, hi]
  rfl

end IsSettled

end Node

namespace Outline

open Node (IsSettled)

/-- Of the nodes behind it a node looks at no more than who reads its attributes, and that only if
it is an attribute item. -/
theorem ofNode_of_isOwned {p : Place} {after others : List Node} {n : Node}
    (h : n.kind = .attributeItem → Node.isOwned p.above after = Node.isOwned p.above others) :
    ofNode false p after n = ofNode false p others n := by
  rw [ofNode_eq, ofNode_eq]
  unfold Node.isOwned at h
  generalize n.kind = kind at h ⊢
  cases kind
  case attributeItem => simp only [h rfl]
  all_goals rfl

/-- By induction on the row: where no attribute waits at its end, what it says does not hang on what
follows, and what follows is read as at the start of a row. Attributes that stand before the row
must have their item in it. -/
theorem ofChildren_every_append (more : List Node) {row : List Node} (h : IsSettled row)
    {p : Place} (hp : p.attributes = [] ∨ (Node.decorated? row).isSome = true) :
    ofChildren .every p (row ++ more) =
      ofChildren .every p row ++ ofChildren .every { above := p.above } more := by
  induction row generalizing p with
  | nil =>
    obtain ⟨above, attributes⟩ := p
    rcases hp with rfl | hp
    · rfl
    · cases hp
  | cons n row ih =>
    have hsaid : (if n.named then ofNode false p (row ++ more) n else []) =
        if n.named then ofNode false p row n else [] := by
      split
      · rename_i hn
        apply ofNode_of_isOwned
        intro hk
        exact Node.isOwned_append p.above more (h.isSome_decorated? hn hk)
      · rfl
    have hbehind : (p.behind n).attributes = [] ∨ (Node.decorated? row).isSome = true := by
      rw [Node.decorated?_cons] at hp
      unfold Place.behind
      split
      · rename_i hs
        have hskip : (n.named && !n.isDecoration) = false := by
          cases hn : n.named <;> simp_all [Node.isDecoration]
        simpa only [hskip, Bool.false_eq_true, if_false] using hp
      · rename_i hs
        split
        · rename_i hk
          have hn : n.named = true := by simp_all
          exact .inr (h.isSome_decorated? hn hk)
        · exact .inl rfl
    rw [List.cons_append, ofChildren_every_cons, ofChildren_every_cons, hsaid,
      ih h.tail hbehind, Place.above_behind, List.append_assoc]

end Outline

namespace Node

theorem outline_of_sourceFile {l : Label} (hl : l.kind = .sourceFile) (cs : List Node) :
    (mk l cs).outline = Outline.ofChildren .every { above := [.sourceFile] } cs := by
  rw [outline, Outline.ofNode_eq]
  simp only [Node.kind, label_mk, hl, children_mk]
  rfl

/-- A file says what its first part says and then what the rest says, unless they are parted between
an attribute and its item. -/
theorem outline_append {l k : Label} (hl : l.kind = .sourceFile) (hk : k.kind = .sourceFile)
    {xs : List Node} (h : IsSettled xs) (ys : List Node) :
    (mk k (xs ++ ys)).outline = (mk l xs).outline ++ (mk k ys).outline := by
  rw [outline_of_sourceFile hk, outline_of_sourceFile hl, outline_of_sourceFile hk]
  exact Outline.ofChildren_every_append ys h (.inl rfl)

end Node

namespace Ledger

variable {l : Ledger} (h : l.Balanced) (rs : List Record)

include h

/-- No record is taken back. -/
theorem Balanced.records_prefix : l.records <+: (l.enterAll rs).records := by
  rw [h.records_enterAll rs]
  exact List.prefix_append _ _

theorem Balanced.names_subset (build : Build) : l.names build ⊆ (l.enterAll rs).names build := by
  rw [h.names_eq, (h.enterAll rs).names_eq]
  exact (((h.records_prefix rs).filter _).map Record.name).subset

end Ledger

namespace Discovery

/-- The second discovery has what the first has, and its further records come behind. -/
structure Extends (d e : Discovery) : Prop where
  records : d.records <+: e.records
  normal : d.normal ⊆ e.normal
  testOnly : d.testOnly ⊆ e.testOnly
  hints : ∃ more, e.hints = d.hints.join more

variable {d e : Discovery} (h : d.Extends e)

include h

theorem Extends.usage_normal {name : String} (hn : name ∈ (Usage.ofDiscovery d).normal) :
    name ∈ (Usage.ofDiscovery e).normal := by
  obtain ⟨hn, hc⟩ := Usage.mem_normal.mp hn
  exact Usage.mem_normal.mpr ⟨h.normal hn, hc⟩

/-- A crate of the tests may turn out to be one that every build needs. -/
theorem Extends.usage_testOnly {name : String} (hn : name ∈ (Usage.ofDiscovery d).testOnly) :
    name ∈ (Usage.ofDiscovery e).normal ∨ name ∈ (Usage.ofDiscovery e).testOnly := by
  obtain ⟨hn, -, hc⟩ := Usage.mem_testOnly.mp hn
  by_cases hm : name ∈ e.normal
  · exact .inl (Usage.mem_normal.mpr ⟨hm, hc⟩)
  · exact .inr (Usage.mem_testOnly.mpr ⟨h.testOnly hn, hm, hc⟩)

end Discovery

/-- What is read behind an outline only adds to what the outline comes to. -/
theorem Outline.discover_append {a b : Outline} (ha : Step.gapsAll a = [])
    (hab : Step.gapsAll (a ++ b) = []) :
    ∃ d e, a.discover = .ok d ∧ discover (a ++ b) = .ok e ∧ d.Extends e := by
  obtain ⟨s, hs, hsl, hsh⟩ := discover_of_gapless ha
  obtain ⟨t, ht, htl, hth⟩ := discover_of_gapless hab
  rw [Step.meaningAll_append] at htl hth
  have hledger : t.ledger =
      s.ledger.enterAll
        (Step.meaningAll b {} (Step.meaningAll a {} []).visible).emitted := by
    rw [htl, hsl, ← Ledger.enterAll_append]
    rfl
  have hbalanced : s.ledger.Balanced := by
    rw [hsl]
    exact Ledger.balanced_empty.enterAll _
  have hnames : ∀ build, s.ledger.names build ⊆ t.ledger.names build := by
    intro build
    rw [hledger]
    exact hbalanced.names_subset _ build
  have hhints : t.hints =
      s.hints.join (Step.meaningAll b {} (Step.meaningAll a {} []).visible).hints := by
    rw [hth, hsh]
    rfl
  refine ⟨_, _, hs, ht, ?_, hnames .normal, hnames .testOnly, _, hhints⟩
  change s.ledger.records <+: t.ledger.records
  rw [hledger]
  exact hbalanced.records_prefix _

/-- Reading more of a file takes nothing back: unless the first part ends with an attribute that
waits for its item, the records of the whole file begin with those of the first part, every name of
it is found again, and every hint stays. A usage keeps its crates, and only crates of the tests can
become crates of every build. -/
theorem Node.discover_longer {l k : Label} {xs ys : List Node} (hl : l.kind = .sourceFile)
    (hk : k.kind = .sourceFile) (hs : IsSettled xs)
    (hx : ∀ m ∈ (mk l xs).preorder, m.text.isSome = true)
    (hy : ∀ m ∈ (mk k (xs ++ ys)).preorder, m.text.isSome = true) :
    ∃ d e, (mk l xs).discover = .ok d ∧ (mk k (xs ++ ys)).discover = .ok e ∧
      d.records <+: e.records ∧ d.normal ⊆ e.normal ∧ d.testOnly ⊆ e.testOnly ∧
      (d.hints.hasMain = true → e.hints.hasMain = true) ∧
      (d.hints.hasTest = true → e.hints.hasTest = true) ∧
      (d.hints.hasProcMacro = true → e.hints.hasProcMacro = true) ∧
      (∀ name ∈ (Usage.ofDiscovery d).normal, name ∈ (Usage.ofDiscovery e).normal) ∧
      (∀ name ∈ (Usage.ofDiscovery d).testOnly,
        name ∈ (Usage.ofDiscovery e).normal ∨ name ∈ (Usage.ofDiscovery e).testOnly) := by
  have ho := outline_append hl hk hs ys
  have hgx := (legible_of_isSome hx).gapsAll_outline
  have hgy := (legible_of_isSome hy).gapsAll_outline
  rw [ho] at hgy
  obtain ⟨d, e, hd, he, h⟩ := Outline.discover_append hgx hgy
  obtain ⟨more, hh⟩ := h.hints
  refine ⟨d, e, ?_, ?_, h.records, h.normal, h.testOnly, ?_, ?_, ?_,
    fun _ => h.usage_normal, fun _ => h.usage_testOnly⟩
  · rw [discover_eq_outline, hd]
  · rw [discover_eq_outline, ho, he]
  all_goals
    intro hint
    simp [hh, Hints.join, hint]

/-- The crate `regex` is one of the tests in the first part of a file, and one of every build in the
whole; the comment between them parts nothing. -/
theorem Node.discover_longer_regex :
    let label : Label := { kind := .sourceFile, text := some "" }
    let xs := testModule [twoSegments none "regex" "Regex"] ++ [worded .lineComment none "//" []]
    let ys := [twoSegments none "regex" "escape", twoSegments none "rand" "random"]
    IsSettled xs ∧ (∀ m ∈ (mk label xs).preorder, m.text.isSome = true) ∧
      (∀ m ∈ (mk label (xs ++ ys)).preorder, m.text.isSome = true) ∧
      ∃ d e, (mk label xs).discover = .ok d ∧ (mk label (xs ++ ys)).discover = .ok e ∧
        d.normal = [] ∧ d.testOnly = ["regex"] ∧ d.records <+: e.records ∧
        (Usage.ofDiscovery e).testOnly = [] ∧ "regex" ∈ (Usage.ofDiscovery e).normal := by
  intro label xs ys
  have hs : IsSettled xs := by
    intro last hl
    cases hl
    decide
  have hx : ∀ m ∈ (mk label xs).preorder, m.text.isSome = true := by decide
  have hy : ∀ m ∈ (mk label (xs ++ ys)).preorder, m.text.isSome = true := by decide
  obtain ⟨d, e, hd, he, hr, -, -, -, -, -, -, htests⟩ := discover_longer (l := label) rfl rfl hs hx hy
  have hfirst : (mk label xs).discover = .ok
      { normal := [], testOnly := ["regex"],
        records := [⟨"regex", .testOnly, some 1⟩], hints := {} } := by rfl
  have hwhole : (mk label (xs ++ ys)).discover = .ok
      { normal := ["regex", "rand"], testOnly := ["regex"],
        records := [⟨"regex", .testOnly, some 1⟩, ⟨"regex", .normal, some 1⟩,
          ⟨"rand", .normal, some 1⟩], hints := {} } := by rfl
  rw [hfirst] at hd
  rw [hwhole] at he
  cases hd
  cases he
  have hnone : (Usage.ofDiscovery
      { normal := ["regex", "rand"], testOnly := ["regex"],
        records := [⟨"regex", .testOnly, some 1⟩, ⟨"regex", .normal, some 1⟩,
          ⟨"rand", .normal, some 1⟩], hints := {} }).testOnly = [] := by
    refine List.eq_nil_iff_forall_not_mem.mpr fun name h => ?_
    obtain ⟨htest, hnormal, -⟩ := Usage.mem_testOnly.mp h
    simp_all
  have hregex := htests "regex" (Usage.mem_testOnly.mpr
    ⟨by decide, by decide, (Usage.isCrateName_iff _).mp (by decide)⟩)
  rw [hnone] at hregex
  exact ⟨hs, hx, hy, _, _, hfirst, hwhole, rfl, rfl, hr, hnone,
    hregex.resolve_right (List.not_mem_nil)⟩

end CrateUsage
