import CrateUsage.Proofs.BareUse
import CrateUsage.Proofs.FunctionHints
import CrateUsage.Proofs.Reachable

namespace CrateUsage

/-- Two tidy stacks of which one grew from the other are the same if no name became local. -/
theorem ScopeStack.Grows.eq_of_isShadowed {s t : ScopeStack} (h : s.Grows t) (hs : s.Tidy)
    (ht : t.Tidy) (hn : ∀ name, t.isShadowed name = true → s.isShadowed name = true) : t = s := by
  obtain ⟨more, hmore⟩ := h.names
  have hnodup := ht.nodup_frames
  rw [t.frames_eq, List.flatMap_cons, h.below, ← hmore] at hnodup
  -- A name that came to the innermost frame would have an owner already.
  have hnone : more = [] := by
    apply List.eq_nil_iff_forall_not_mem.mpr
    intro name hm
    have hlocal : t.isShadowed name = true := by
      rw [ht.isShadowed_iff_frames, ← hmore]
      exact List.mem_append_left _ (List.mem_append_right _ hm)
    have hold := hn name hlocal
    rw [hs.isShadowed_iff_frames] at hold
    obtain ⟨htop, -, hapart⟩ := List.nodup_append.mp hnodup
    rcases List.mem_append.mp hold with htopmost | hbelow
    · exact (List.nodup_append.mp htop).2.2 name htopmost name hm rfl
    · exact hapart name (List.mem_append_right _ hm) name hbelow rfl
  have htop : t.top = s.top := by
    have hflag : t.top.testOnly = s.top.testOnly := h.isTestOnly_eq
    have hnames : t.top.names = s.top.names := by rw [← hmore, hnone, List.append_nil]
    cases hst : s.top
    cases htt : t.top
    simp_all
  have hframes : t.inner ++ [t.root] = s.inner ++ [s.root] := by
    have hall : t.frames = s.frames := by rw [t.frames_eq, s.frames_eq, htop, h.below]
    exact hall
  obtain ⟨hinner, hroot⟩ := List.append_inj' hframes rfl
  exact ht.ext hs hinner (List.singleton_inj.mp hroot)

namespace Ledger

/-- What is entered is held behind it. -/
theorem holds_enterAll {l : Ledger} {rs : List Record} {build : Build} {name : String}
    (h : l.holds build name = true ∨ ∃ r ∈ rs, r.build = build ∧ r.name = name) :
    (l.enterAll rs).holds build name = true := by
  induction rs generalizing l with
  | nil =>
    rcases h with h | ⟨r, hr, -⟩
    · exact h
    · cases hr
  | cons q rs ih =>
    apply ih
    rw [holds_enter]
    rcases h with h | ⟨r, hr, he⟩
    · exact .inl (.inl h)
    · rcases List.mem_cons.mp hr with hq | hr
      · subst hq
        exact .inl (.inr he)
      · exact .inr ⟨r, hr, he⟩

theorem enterAll_of_holds {l : Ledger} {rs : List Record}
    (h : ∀ r ∈ rs, l.holds r.build r.name = true) : l.enterAll rs = l := by
  induction rs with
  | nil => rfl
  | cons r rs ih =>
    have hr := enter_of_holds (h r List.mem_cons_self)
    rw [enterAll, List.foldl_cons, hr]
    exact ih fun q hq => h q (List.mem_cons_of_mem _ hq)

/-- Entering a part of what was entered changes nothing. -/
theorem enterAll_again (l : Ledger) {rs qs : List Record} (h : qs ⊆ rs) :
    (l.enterAll rs).enterAll qs = l.enterAll rs :=
  enterAll_of_holds fun q hq => holds_enterAll (.inr ⟨q, h hq, rfl, rfl⟩)

end Ledger

namespace Meaning

/-- The names that a part of a file brings do not hang on what is visible before it, and the more is
visible the less is referred to. -/
structure Brings (m : Meaning) (names : List String) : Prop where
  visible : ∀ c visible, (m c visible).visible = names ++ visible
  emitted : ∀ (c : Setting) {visible more : List String}, visible ⊆ more →
    (m c more).emitted ⊆ (m c visible).emitted

variable {a b : Meaning} {names others : List String}

theorem brings_nothing : Brings nothing [] := ⟨fun _ _ => rfl, fun _ _ _ _ => List.Subset.refl _⟩

theorem brings_emit (name : String) (line : Int) : Brings (emit name line) [] := by
  refine ⟨fun _ _ => rfl, ?_⟩
  intro c visible more hsub
  unfold emit
  by_cases hhidden : (isPathKeyword name || visible.contains name) = true
  · have hstill : (isPathKeyword name || more.contains name) = true := by
      rw [Bool.or_eq_true, List.contains_iff_mem] at hhidden ⊢
      exact hhidden.imp_right fun hm => hsub hm
    rw [if_pos hstill]
    exact List.nil_subset _
  · rw [if_neg hhidden]
    split
    · exact List.nil_subset _
    · exact List.Subset.refl _

theorem brings_bring (name : String) : Brings (bring name) [name] :=
  ⟨fun _ _ => rfl, fun _ _ _ _ => List.Subset.refl _⟩

theorem Brings.andThen (ha : Brings a names) (hb : Brings b others) :
    Brings (a.andThen b) (others ++ names) := by
  refine ⟨?_, ?_⟩
  · intro c visible
    simp only [Meaning.andThen, hb.visible, ha.visible, List.append_assoc]
  · intro c visible more hsub
    have hbehind : (a c visible).visible ⊆ (a c more).visible := by
      rw [ha.visible, ha.visible]
      exact List.append_subset.mpr ⟨List.subset_append_left names more,
        List.subset_append_of_subset_right names hsub⟩
    exact List.append_subset.mpr ⟨List.subset_append_of_subset_left _ (ha.emitted c hsub),
      List.subset_append_of_subset_right _ (hb.emitted c hbehind)⟩

theorem Brings.enclosed (ha : Brings a names) (marked : Bool) : Brings (.enclosed marked a) [] :=
  ⟨fun _ _ => rfl, fun c _ _ hsub => ha.emitted (c.within marked) hsub⟩

theorem Brings.telling (ha : Brings a names) (hints : Hints) : Brings (.telling hints a) names :=
  ⟨ha.visible, ha.emitted⟩

theorem Brings.freeFunction (ha : Brings a names) (name : Option String) (markers : Markers) :
    Brings (.freeFunction name markers a) [] := by
  have hmain := (ha.enclosed false).telling { hasMain := true }
  have hother := (ha.enclosed markers.isTest).telling markers.hints
  refine ⟨?_, ?_⟩
  · intro c visible
    unfold Meaning.freeFunction
    split
    · exact hmain.visible c visible
    · exact hother.visible c visible
  · intro c visible more hsub
    unfold Meaning.freeFunction
    split
    · exact hmain.emitted c hsub
    · exact hother.emitted c hsub

end Meaning

mutual
/-- By induction on the steps. A body brings names to its own steps alone. -/
theorem Step.brings_meaning : ∀ step : Step, ∃ names, step.meaning.Brings names
  | .refer name line => ⟨_, Meaning.brings_emit name line⟩
  | .declare name => ⟨_, Meaning.brings_bring name⟩
  | .unreadable _ => ⟨_, Meaning.brings_nothing⟩
  | .scope marked body =>
    have ⟨_, hb⟩ := Step.brings_meaningAll body
    ⟨_, hb.enclosed marked⟩
  | .function _ _ body =>
    have ⟨_, hb⟩ := Step.brings_meaningAll body
    ⟨_, hb.freeFunction _ _⟩

theorem Step.brings_meaningAll : ∀ steps : List Step, ∃ names, (Step.meaningAll steps).Brings names
  | [] => ⟨_, Meaning.brings_nothing⟩
  | step :: steps =>
    have ⟨_, hs⟩ := Step.brings_meaning step
    have ⟨_, hr⟩ := Step.brings_meaningAll steps
    ⟨_, hs.andThen hr⟩
end

theorem Hints.join_again (a b : Hints) : (a.join b).join b = a.join b := by
  simp [join]

/-- The scopes themselves give a setting and visible names that they agree with. -/
theorem Survey.reads_self {s : Survey} (h : s.scopes.Tidy) :
    s.Reads ⟨s.scopes.isTestOnly, s.scopes.isRoot⟩ s.scopes.localNames where
  tidy := h
  testOnly := rfl
  outermost := rfl
  names := by
    intro name
    rw [Bool.eq_iff_iff, h.isShadowed_iff, List.contains_iff_mem]

/-- Steps that are taken again find nothing new: all they may still refer to was entered the first
time, and all they declare is local. -/
theorem Step.runAll_again {steps : List Step} (hg : Step.gapsAll steps = []) {v : Survey}
    (hv : v.scopes.Tidy) :
    ∃ t u, Step.runAll steps v = (none, t) ∧ Step.runAll steps t = (none, u) ∧
      u.scopes = t.scopes ∧ u.ledger = t.ledger ∧ u.hints = t.hints := by
  obtain ⟨t, ht, hfirst⟩ := Step.runAll_meaning (Survey.reads_self hv) steps hg
  obtain ⟨u, hu, hsecond⟩ := Step.runAll_meaning hfirst.reads steps hg
  obtain ⟨names, hb⟩ := Step.brings_meaningAll steps
  -- The second time the steps are taken among the names that they brought the first time.
  generalize (⟨v.scopes.isTestOnly, v.scopes.isRoot⟩ : Setting) = c at hfirst hsecond
  generalize v.scopes.localNames = visible at hfirst hsecond
  rw [hb.visible] at hsecond
  refine ⟨t, u, ht, hu, ?_, ?_, ?_⟩
  · have hgrows := Step.grows_runAll t steps
    rw [hu] at hgrows
    apply hgrows.eq_of_isShadowed hfirst.reads.tidy hsecond.reads.tidy
    intro name hn
    rw [hsecond.reads.names, hb.visible] at hn
    rw [hfirst.reads.names, hb.visible]
    simpa using hn
  · have hsub : (Step.meaningAll steps c (names ++ visible)).emitted ⊆
        (Step.meaningAll steps c visible).emitted :=
      hb.emitted c (List.subset_append_right names visible)
    rw [hsecond.ledger, hfirst.ledger]
    exact v.ledger.enterAll_again hsub
  · have hsame : (Step.meaningAll steps c (names ++ visible)).hints =
        (Step.meaningAll steps c visible).hints := by
      rw [Step.hints_meaningAll, Step.hints_meaningAll]
    rw [hsecond.hints, hfirst.hints, hsame, Hints.join_again]

namespace Site

variable {s t : Site}

theorem material_subset_of_below (h : t ∈ s.below) : t.material ⊆ s.material := by
  induction s using weight_induction with
  | h s ih =>
    rw [below_eq] at h
    rcases List.mem_cons.mp h with he | hbelow
    · subst he
      exact List.Subset.refl _
    · obtain ⟨c, hc, ht⟩ := List.mem_flatMap.mp hbelow
      have hw := within_of_child hc
      exact List.Subset.trans (ih c hw.weight_lt ht) hw.subperm.subset

theorem explained_placeBehind {P : Kind → Prop} (above : List Kind) {before : List Node}
    (h : ∀ n ∈ before, n.Accounts P) : (placeBehind above before).Explained P := by
  induction before with
  | nil => exact fun _ ha => by cases ha
  | cons n before ih =>
    obtain ⟨hn, hb⟩ := List.forall_mem_cons.mp h
    exact (ih hb).behind
      (Outline.explained_ofAttributes _ n.children fun c hc => hn.child hc)

/-- Where all nodes have a text that a visit may read, its outline has no gaps. -/
theorem gapsAll_outline (h : ∀ m ∈ s.material, m.text ≠ none) : Step.gapsAll s.outline = [] := by
  have hplace : s.place.Explained fun _ => False := by
    apply explained_placeBehind
    intro n hn m hm ht
    exact h m (List.mem_append_right _ ((preorder_sublist_of_before hn).subset hm)) ht
  exact List.eq_nil_iff_forall_not_mem.mpr
    (Outline.explained_ofNode false s.place s.after s.node (legible_of_texts h) hplace)

/-- A node that is visited again right away is known already: the crates, their records, the hints,
the open frames with their names and the look-up table stay as the first visit left them. Only the
log tells of the second one. -/
theorem visit_again {root : Node} (h : ∀ m ∈ root.preorder, m.text.isSome = true) {s : Site}
    (hs : s ∈ root.sites) {v : Survey} (hv : v.Reachable) :
    ∃ t u, s.visit v = (none, t) ∧ s.visit t = (none, u) ∧ t.Reachable ∧
      u.scopes = t.scopes ∧ u.ledger = t.ledger ∧ u.hints = t.hints := by
  have hmaterial : s.material ⊆ root.preorder := by
    have hroot : material ⟨root, [], [], []⟩ = root.preorder := List.append_nil _
    have hsub : s.material ⊆ material ⟨root, [], [], []⟩ := material_subset_of_below hs
    rwa [hroot] at hsub
  have hg : Step.gapsAll s.outline = [] := by
    apply gapsAll_outline
    intro m hm hn
    have hsome := h m (hmaterial hm)
    rw [hn] at hsome
    cases hsome
  obtain ⟨t, u, ht, hu, hsame⟩ := Step.runAll_again hg hv.tidy
  refine ⟨t, u, ht, hu, ?_, hsame⟩
  have hreach := Step.leadsTo_runAll hv s.outline
  rwa [ht] at hreach

/-- A file that is visited where only tests see it. It refers to `de` before it declares it, so the
second visit takes the other branch there. -/
theorem visit_file_again :
    let root := Rust.parse "fn f() { de::g(); rand::g(); } use serde::de;"
    let v : Survey := (({} : Survey).push true).declare "rand"
    (∀ m ∈ root.preorder, m.text.isSome = true) ∧ v.Reachable ∧
      ∃ s ∈ root.sites, s.node.kind = .sourceFile ∧ ∃ t u, s.visit v = (none, t) ∧
        s.visit t = (none, u) ∧ t.ledger.testOnly = ["de", "serde"] ∧ u.scopes = t.scopes ∧
        u.ledger = t.ledger ∧ u.hints = t.hints := by
  intro root v
  have ht : ∀ m ∈ root.preorder, m.text.isSome = true := by decide +kernel
  have hv : v.Reachable := (Survey.LeadsTo.refl.push true).declare "rand"
  have hfile : ∃ s ∈ root.sites, s.node.kind = .sourceFile ∧
      (s.visit v).2.ledger.testOnly = ["de", "serde"] := by
    decide +kernel
  obtain ⟨s, hs, hk, hfound⟩ := hfile
  obtain ⟨t, u, hfirst, hsecond, -, hsame⟩ := visit_again ht hs hv
  rw [hfirst] at hfound
  exact ⟨ht, hv, s, hs, hk, t, u, hfirst, hsecond, hfound, hsame⟩

end Site
end CrateUsage
