import CrateUsage.Proofs.UseReading
import CrateUsage.Proofs.Usages

namespace CrateUsage

structure Record.Covers (p r : Record) : Prop where
  name : p.name = r.name
  build : p.build = .normal ∨ p.build = r.build

/-- The second list is the first with sightings put in between that an earlier one covers, be it
one before the lists. -/
inductive Pads : List Record → List Record → List Record → Prop
  | nil {seen : List Record} : Pads seen [] []
  | both {seen rs qs : List Record} (r : Record) (h : Pads (r :: seen) rs qs) :
      Pads seen (r :: rs) (r :: qs)
  | extra {seen rs qs : List Record} {p r : Record} (hp : p ∈ seen) (hc : p.Covers r)
      (h : Pads seen rs qs) : Pads seen rs (r :: qs)

namespace Pads

variable {seen more rs qs as bs : List Record}

theorem mono (h : Pads seen rs qs) (hs : seen ⊆ more) : Pads more rs qs := by
  induction h generalizing more with
  | nil => exact .nil
  | both r _ ih => exact .both r (ih (List.cons_subset_cons r hs))
  | extra hp hc _ ih => exact .extra (hs hp) hc (ih hs)

theorem append (h : Pads seen rs qs) (g : Pads (rs ++ seen) as bs) :
    Pads seen (rs ++ as) (qs ++ bs) := by
  induction h with
  | nil => exact g
  | both r _ ih =>
    refine .both r (ih (g.mono ?_))
    intro p hp
    simp only [List.cons_append, List.mem_cons, List.mem_append] at hp ⊢
    tauto
  | extra hp hc _ ih => exact .extra hp hc (ih g)

end Pads

/-- Fewer names are visible to the second reader, and each name that only the first one sees was
sighted before: for every build, or where only tests are built. -/
structure Lags (c : Setting) (seen : List Record) (visible fewer : List String) : Prop where
  subset : fewer ⊆ visible
  sighted : ∀ name ∈ visible, name ∉ fewer → isPathKeyword name = true ∨
    ∃ r ∈ seen, r.name = name ∧ (r.build = .normal ∨ c.testOnly = true)

namespace Lags

variable {c : Setting} {seen : List Record} {visible fewer : List String}

theorem refl (c : Setting) (seen : List Record) (visible : List String) :
    Lags c seen visible visible :=
  ⟨fun _ => id, fun _ hn hf => absurd hn hf⟩

theorem mono (h : Lags c seen visible fewer) {more : List Record} (hs : seen ⊆ more) :
    Lags c more visible fewer where
  subset := h.subset
  sighted name hn hf := (h.sighted name hn hf).imp_right
    fun ⟨r, hr, hname⟩ => ⟨r, hs hr, hname⟩

/-- What is only built for tests stays so in every scope within. -/
theorem within (h : Lags c seen visible fewer) (marked : Bool) :
    Lags (c.within marked) seen visible fewer where
  subset := h.subset
  sighted name hn hf := (h.sighted name hn hf).imp_right
    fun ⟨r, hr, hname, hb⟩ => ⟨r, hr, hname, hb.imp_right fun ht => by simp [Setting.within, ht]⟩

theorem bring (h : Lags c seen visible fewer) (name : String) :
    Lags c seen (name :: visible) (name :: fewer) where
  subset := List.cons_subset_cons name h.subset
  sighted n hn hf := by
    rw [List.mem_cons, not_or] at hf
    exact h.sighted n ((List.mem_cons.mp hn).resolve_left hf.1) hf.2

/-- A name that only the first reader sees is covered where it is referred to again. -/
theorem covers (h : Lags c seen visible fewer) {name : String} (hn : name ∈ visible)
    (hf : name ∉ fewer) (hk : isPathKeyword name = false) (line : Option Int) :
    ∃ p ∈ seen, p.Covers ⟨name, c.build, line⟩ := by
  rcases h.sighted name hn hf with hw | ⟨p, hp, hname, hb⟩
  · rw [hk] at hw
    cases hw
  · refine ⟨p, hp, hname, ?_⟩
    cases hk : p.build with
    | normal => exact .inl rfl
    | testOnly =>
      refine .inr ?_
      rw [hk] at hb
      simp [Setting.build, hb.resolve_left (by simp)]

end Lags

namespace Meaning

def Adds (a b : Meaning) : Prop :=
  ∀ (c : Setting) {seen : List Record} {visible fewer : List String},
    Lags c seen visible fewer →
      Pads seen (a c visible).emitted (b c fewer).emitted ∧
      Lags c ((a c visible).emitted ++ seen) (a c visible).visible (b c fewer).visible ∧
      (b c fewer).hints = (a c visible).hints

variable {a b d e : Meaning}

theorem adds_nothing : Adds nothing nothing := fun _ _ _ _ h => ⟨.nil, h, rfl⟩

theorem adds_bring (name : String) : Adds (bring name) (bring name) :=
  fun _ _ _ _ h => ⟨.nil, h.bring name, rfl⟩

theorem pads_emit (name : String) (line : Int) {c : Setting} {seen : List Record}
    {visible fewer : List String} (h : Lags c seen visible fewer) :
    Pads seen (emit name line c visible).emitted (emit name line c fewer).emitted := by
  unfold emit
  cases hk : isPathKeyword name with
  | true => exact .nil
  | false =>
    by_cases hf : name ∈ fewer
    · simp only [List.contains_eq_mem, hf, h.subset hf, decide_true, Bool.or_true, if_true]
      exact .nil
    · by_cases hv : name ∈ visible
      · obtain ⟨p, hp, hc⟩ := h.covers hv hf hk (some line)
        simp only [List.contains_eq_mem, hf, hv, decide_true, decide_false, Bool.or_true,
          Bool.or_false, if_true, Bool.false_eq_true, if_false]
        exact .extra hp hc .nil
      · simp only [List.contains_eq_mem, hf, hv, decide_false, Bool.or_false,
          Bool.false_eq_true, if_false]
        exact .both _ .nil

theorem adds_emit (name : String) (line : Int) : Adds (emit name line) (emit name line) :=
  fun _ _ _ _ h => ⟨pads_emit name line h, h.mono (List.subset_append_right _ _), rfl⟩

/-- A name that is local from here on is also one that was sighted here, unless it was local before
or is a path keyword. -/
theorem adds_referred (name : String) (line : Int) :
    Adds ((emit name line).andThen (bring name)) (emit name line) := by
  intro c seen visible fewer h
  refine ⟨?_, ⟨?_, ?_⟩, rfl⟩
  · simp only [andThen, bring, List.append_nil]
    exact pads_emit name line h
  · exact fun n hn => List.mem_cons_of_mem _ (h.subset hn)
  · intro n hn hf
    have hlag := h.mono (List.subset_append_right (emit name line c visible).emitted seen)
    simp only [andThen, bring, List.append_nil] at hn ⊢
    by_cases hv : n ∈ visible
    · exact hlag.sighted n hv hf
    · obtain rfl := (List.mem_cons.mp hn).resolve_right hv
      cases hk : isPathKeyword n with
      | true => exact .inl rfl
      | false =>
        refine .inr ⟨⟨n, c.build, some line⟩, ?_, rfl, ?_⟩
        · simp [emit, hk, hv]
        · cases ht : c.testOnly with
          | true => exact .inr rfl
          | false => exact .inl (by simp [Setting.build, ht])

theorem Adds.andThen (h : Adds a b) (g : Adds d e) : Adds (a.andThen d) (b.andThen e) := by
  intro c seen visible fewer hc
  obtain ⟨he, hv, hh⟩ := h c hc
  obtain ⟨ge, gv, gh⟩ := g c hv
  refine ⟨he.append ge, gv.mono ?_, ?_⟩
  · intro r hr
    simp only [Meaning.andThen, List.mem_append] at hr ⊢
    tauto
  · simp only [Meaning.andThen, hh, gh]

theorem Adds.enclosed (h : Adds a b) (marked : Bool) :
    Adds (.enclosed marked a) (.enclosed marked b) := by
  intro c seen visible fewer hc
  obtain ⟨he, -, hh⟩ := h (c.within marked) (hc.within marked)
  exact ⟨he, hc.mono (List.subset_append_right _ _), hh⟩

theorem Adds.telling (h : Adds a b) (hints : Hints) :
    Adds (.telling hints a) (.telling hints b) := by
  intro c seen visible fewer hc
  obtain ⟨he, hv, hh⟩ := h c hc
  exact ⟨he, hv, congrArg hints.join hh⟩

theorem Adds.freeFunction (h : Adds a b) (name : Option String) (markers : Markers) :
    Adds (.freeFunction name markers a) (.freeFunction name markers b) := by
  intro c seen visible fewer hc
  unfold Meaning.freeFunction
  split
  · exact (h.enclosed false).telling _ c hc
  · exact (h.enclosed markers.isTest).telling _ c hc

end Meaning

mutual
/-- By induction on the steps: one reader sees no more than the other ever after. -/
theorem Step.adds_meaning : ∀ step : Step, step.meaning.Adds step.meaning
  | .refer name line => Meaning.adds_emit name line
  | .declare name => Meaning.adds_bring name
  | .unreadable _ => Meaning.adds_nothing
  | .scope marked body => (Step.adds_meaningAll body).enclosed marked
  | .function _ _ body => (Step.adds_meaningAll body).freeFunction _ _

theorem Step.adds_meaningAll : ∀ steps : List Step,
    (Step.meaningAll steps).Adds (Step.meaningAll steps)
  | [] => Meaning.adds_nothing
  | step :: steps => (Step.adds_meaning step).andThen (Step.adds_meaningAll steps)
end

namespace Outline

/-- The second outline adds to the first only what is covered, and stops nowhere else. -/
structure Adds (a b : Outline) : Prop where
  meaning : (Step.meaningAll a).Adds (Step.meaningAll b)
  gapless : Step.gapsAll a = [] → Step.gapsAll b = []

theorem Adds.refl (o : Outline) : Adds o o := ⟨Step.adds_meaningAll o, id⟩

theorem compatible_adds : Compatible Adds where
  refl := Adds.refl
  append h g := by
    refine ⟨?_, ?_⟩
    · rw [Step.meaningAll_append, Step.meaningAll_append]
      exact h.meaning.andThen g.meaning
    · rw [Step.gapsAll_append, Step.gapsAll_append, List.append_eq_nil_iff,
        List.append_eq_nil_iff]
      exact And.imp h.gapless g.gapless
  scope marked h := by
    refine ⟨?_, ?_⟩
    · rw [Step.meaningAll_singleton, Step.meaningAll_singleton]
      exact h.meaning.enclosed marked
    · simp only [Step.gapsAll, Step.gaps, List.append_nil]
      exact h.gapless
  function name markers h := by
    refine ⟨?_, ?_⟩
    · rw [Step.meaningAll_singleton, Step.meaningAll_singleton]
      exact h.meaning.freeFunction _ _
    · simp only [Step.gapsAll, Step.gaps, List.append_nil, List.append_eq_nil_iff]
      exact And.imp_right h.gapless

/-- The reading of use trees under which a bare name is a crate and brings no local name. -/
def sayingBareUse (tree : Node) : Outline :=
  if tree.kind = .identifier then useRoot tree else sayingUse tree

/-- A bare name is referred to before it is declared. -/
theorem adds_bareUse (tree : Node) : Adds (sayingUse tree) (sayingBareUse tree) := by
  unfold sayingBareUse
  split
  · rename_i hk
    obtain ⟨l, cs⟩ := tree
    have hl : l.kind = .identifier := hk
    have hroot : useRoot (.mk l cs) = referring (some (.mk l cs)) (.mk l cs) := by
      simp only [useRoot, Node.kind, Node.label_mk, hl, referringFirst, Node.firstSegment?,
        Node.segments]
      rfl
    have hnames : useNames (.mk l cs) = declaring (some (.mk l cs)) := by
      simp only [useNames, hl]
    rw [sayingUse, hnames, hroot, declaring, referring, readingOf, readingOf, reading, reading]
    cases (Node.mk l cs).read with
    | error kind => exact ⟨(Step.adds_meaningAll [.unreadable kind]), fun h => by cases h⟩
    | ok name =>
      refine ⟨?_, fun _ => rfl⟩
      rw [Step.meaningAll_append]
      simp only [Step.meaningAll_singleton]
      exact Meaning.adds_referred name _
  · exact .refl _

end Outline

def Record.counts (normal : List String) (r : Record) : Bool :=
  r.build = .normal || !normal.contains r.name

/-- What covers a sighting that counts is for the same builds: next to one for normal builds, a
sighting for the tests does not count. -/
theorem Record.Covers.build_eq {p r : Record} (h : p.Covers r) {normal : List String}
    (hp : p.build = .normal → p.name ∈ normal) (hr : r.counts normal = true) :
    p.build = r.build := by
  refine h.build.elim (fun hnormal => ?_) id
  have hmem : r.name ∈ normal := h.name ▸ hp hnormal
  have hkept : r.build = .normal := by simpa [Record.counts, hmem] using hr
  rw [hnormal, hkept]

namespace Ledger

theorem holds_enter (l : Ledger) (r : Record) (build : Build) (name : String) :
    (l.enter r).holds build name = true ↔
      l.holds build name = true ∨ r.build = build ∧ r.name = name := by
  by_cases hn : r.build = build ∧ l.holds r.build r.name = false
  · simp only [holds, List.contains_iff_mem]
    rw [names_enter, if_pos hn]
    simp [hn.1, eq_comm]
  · have hs : (l.enter r).holds build name = l.holds build name := by
      rw [holds, names_enter, if_neg hn, holds]
    rw [hs]
    refine ⟨.inl, ?_⟩
    rintro (hm | ⟨rfl, rfl⟩)
    · exact hm
    · simpa using hn

/-- By induction on the padding: what is put in between is left out, or it is held already. -/
theorem enterAll_of_pads {seen rs qs : List Record} (h : Pads seen rs qs) {normal : List String} :
    ∀ {l : Ledger}, (∀ r ∈ seen ++ rs, r.build = .normal → r.name ∈ normal) →
      (∀ r ∈ seen, r.counts normal = true → l.holds r.build r.name = true) →
        l.enterAll (qs.filter (·.counts normal)) = l.enterAll (rs.filter (·.counts normal)) := by
  induction h with
  | nil => exact fun _ _ => rfl
  | @both seen rs qs r _ ih =>
    intro l hn hl
    have hn' : ∀ p ∈ (r :: seen) ++ rs, p.build = .normal → p.name ∈ normal := by
      intro p hp
      refine hn p ?_
      simp only [List.cons_append, List.mem_cons, List.mem_append] at hp ⊢
      tauto
    rw [List.filter_cons, List.filter_cons]
    split
    · refine ih (l := l.enter r) hn' fun p hp hc => (holds_enter l r _ _).mpr ?_
      rcases List.mem_cons.mp hp with rfl | hp
      · exact .inr ⟨rfl, rfl⟩
      · exact .inl (hl p hp hc)
    · rename_i hr
      refine ih hn' fun p hp hc => ?_
      rcases List.mem_cons.mp hp with rfl | hp
      · exact absurd hc hr
      · exact hl p hp hc
  | @extra seen rs qs p r hp hc _ ih =>
    intro l hn hl
    rw [List.filter_cons]
    split
    · rename_i hr
      have hb : p.build = r.build := hc.build_eq (hn p (List.mem_append_left _ hp)) hr
      have hheld : l.holds r.build r.name = true := by
        rw [← hb, ← hc.name]
        refine hl p hp ?_
        rw [Record.counts, hb, hc.name]
        exact hr
      change (l.enter r).enterAll _ = _
      rw [enter_of_holds hheld]
      exact ih hn hl
    · exact ih hn hl

theorem records_enterAll_counts (rs : List Record) (normal : List String) :
    (({} : Ledger).enterAll rs).records.filter (·.counts normal) =
      (({} : Ledger).enterAll (rs.filter (·.counts normal))).records := by
  rw [records_enterAll_empty, records_enterAll_empty]
  refine firstSightings_filter_of_repeats (fun r q h => ?_) rs
  obtain ⟨hname, hb⟩ := Record.repeats_iff.mp h
  rw [Record.counts, hname, hb]
  rfl

theorem normal_enterAll_counts (rs : List Record) (normal : List String) :
    (({} : Ledger).enterAll (rs.filter (·.counts normal))).names .normal =
      (({} : Ledger).enterAll rs).names .normal := by
  rw [names_enterAll_empty, names_enterAll_empty, List.filter_filter]
  congr 2
  refine List.filter_congr fun r _ => ?_
  cases hb : r.build <;> simp [Record.counts, hb]

end Ledger

namespace Usage

def ofCounted (hints : Hints) (normal : List String) (counted : List Record) : Usage :=
  let testOnly := crates ((counted.filter (·.build = .testOnly)).map Record.name)
  { hints, normal := crates normal, testOnly,
    records := counted.filter fun r =>
      match r.build with
      | .normal => (crates normal).contains r.name
      | .testOnly => testOnly.contains r.name }

theorem ofDiscovery_eq_ofCounted {d : Discovery}
    (h : d.testOnly = (d.records.filter (·.build = .testOnly)).map Record.name) :
    ofDiscovery d = ofCounted d.hints d.normal (d.records.filter (·.counts d.normal)) := by
  have ht : d.testOnly.filter (!d.normal.contains ·) =
      ((d.records.filter (·.counts d.normal)).filter (·.build = .testOnly)).map Record.name := by
    rw [h, List.filter_map, List.filter_filter, List.filter_filter]
    congr 1
    refine List.filter_congr fun r _ => ?_
    cases hb : r.build <;> simp [Record.counts, hb]
  have hr : (ofDiscovery d).records =
      (ofCounted d.hints d.normal (d.records.filter (·.counts d.normal))).records := by
    simp only [ofDiscovery, ofCounted]
    rw [← ht, List.filter_filter]
    refine List.filter_congr fun r _ => ?_
    cases hb : r.build with
    | normal => simp [Record.counts, hb]
    | testOnly =>
      dsimp only
      cases hc : (crates (d.testOnly.filter (!d.normal.contains ·))).contains r.name with
      | false => rfl
      | true =>
        have hm := (mem_testOnly (d := d)).mp (List.contains_iff_mem.mp hc)
        simp [Record.counts, hm.2.1]
  change Usage.mk _ _ _ (ofDiscovery d).records = _
  rw [hr]
  simp only [ofCounted, ht]

end Usage

/-- What only adds covered sightings changes no usage. -/
theorem Usage.ofDiscovery_of_pads {s t : Survey} {rs qs : List Record} (h : Pads [] rs qs)
    (hs : s.ledger = ({} : Ledger).enterAll rs) (ht : t.ledger = ({} : Ledger).enterAll qs)
    (hh : t.hints = s.hints) :
    ofDiscovery (.ofSurvey s) = ofDiscovery (.ofSurvey t) := by
  have hmem : ∀ r ∈ [] ++ rs, r.build = .normal → r.name ∈ s.ledger.normal := by
    intro r hr hb
    change r.name ∈ s.ledger.names .normal
    rw [hs]
    exact (Ledger.mem_names_enterAll_empty rs .normal r.name).mpr ⟨r, hr, hb, rfl⟩
  have hcounts : ({} : Ledger).enterAll (qs.filter (·.counts s.ledger.normal)) =
      ({} : Ledger).enterAll (rs.filter (·.counts s.ledger.normal)) :=
    Ledger.enterAll_of_pads h hmem (fun r hr => by cases hr)
  have hnormal : t.ledger.normal = s.ledger.normal := by
    change t.ledger.names .normal = s.ledger.names .normal
    rw [ht, ← Ledger.normal_enterAll_counts qs s.ledger.normal, hcounts,
      Ledger.normal_enterAll_counts, hs]
  have hrecords : t.ledger.records.filter (·.counts s.ledger.normal) =
      s.ledger.records.filter (·.counts s.ledger.normal) := by
    rw [ht, Ledger.records_enterAll_counts, hcounts, ← Ledger.records_enterAll_counts, ← hs]
  have htests : ∀ (t : Survey) (qs : List Record), t.ledger = ({} : Ledger).enterAll qs →
      t.ledger.testOnly = (t.ledger.records.filter (·.build = .testOnly)).map Record.name := by
    intro t qs ht
    rw [ht]
    exact (Ledger.balanced_empty.enterAll qs).names_eq .testOnly
  rw [ofDiscovery_eq_ofCounted (htests s rs hs), ofDiscovery_eq_ofCounted (htests t qs ht)]
  simp only [Discovery.ofSurvey, hnormal, hh, hrecords]

namespace Node

/-- Whether or not `use x;` makes `x` a local name, the usage of a tree is the same: what is
referred to again was sighted before, and for builds that matter no less. -/
theorem usage_bareUse (root : Node) (h : ∀ m ∈ root.preorder, m.text.isSome = true) :
    ∃ d e, root.discover = .ok d ∧
      (root.outlineBy Outline.sayingBareUse).discover = .ok e ∧
      Usage.ofDiscovery d = Usage.ofDiscovery e := by
  obtain ⟨hm, hg⟩ := related_outline Outline.compatible_adds Outline.adds_bareUse root
  have hl := (legible_of_isSome h).gapsAll_outline
  obtain ⟨s, hs, hsl, hsh⟩ := Outline.discover_of_gapless hl
  obtain ⟨t, ht, htl, hth⟩ := Outline.discover_of_gapless (hg hl)
  obtain ⟨hp, -, hh⟩ := hm {} (Lags.refl {} [] [])
  refine ⟨_, _, root.discover_eq_outline.trans hs, ht, Usage.ofDiscovery_of_pads hp hsl htl ?_⟩
  rw [hth, hsh, hh]

/-- The tests name `rand` again, which one reader notes and the other does not, and the usage leaves
it out. -/
theorem usage_bareUse_rand :
    let root := worded .sourceFile none "" (
      worded .useDeclaration none "" [worded .identifier (some "argument") "rand" []] ::
        testModule [twoSegments none "rand" "random", twoSegments none "regex" "Regex"])
    (∀ m ∈ root.preorder, m.text.isSome = true) ∧
      ∃ d e, root.discover = .ok d ∧
        (root.outlineBy Outline.sayingBareUse).discover = .ok e ∧
        d.testOnly = ["regex"] ∧ e.testOnly = ["rand", "regex"] ∧
        Usage.ofDiscovery d = Usage.ofDiscovery e := by
  intro root
  have ht : ∀ m ∈ root.preorder, m.text.isSome = true := by decide
  obtain ⟨d, e, hd, he, hu⟩ := usage_bareUse root ht
  have hroot : root.discover = .ok
      { normal := ["rand"], testOnly := ["regex"],
        records := [⟨"rand", .normal, some 1⟩, ⟨"regex", .testOnly, some 1⟩], hints := {} } := by
    rfl
  have hbare : (root.outlineBy Outline.sayingBareUse).discover = .ok
      { normal := ["rand"], testOnly := ["rand", "regex"],
        records := [⟨"rand", .normal, some 1⟩, ⟨"rand", .testOnly, some 1⟩,
          ⟨"regex", .testOnly, some 1⟩], hints := {} } := by rfl
  rw [hroot] at hd
  rw [hbare] at he
  cases hd
  cases he
  exact ⟨ht, _, _, hroot, hbare, rfl, rfl, hu⟩

end Node
end CrateUsage
