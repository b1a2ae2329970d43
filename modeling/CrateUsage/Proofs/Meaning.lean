import CrateUsage.Proofs.Gaps
import CrateUsage.Proofs.Ledger

namespace CrateUsage

/-- Where a part of a file is read: whether only tests are built from it, and whether it stands
outside of every block, module and free function. -/
structure Setting where
  testOnly : Bool := false
  outermost : Bool := true

namespace Setting

def within (c : Setting) (marked : Bool) : Setting :=
  { testOnly := c.testOnly || marked, outermost := false }

def build (c : Setting) : Build := if c.testOnly then .testOnly else .normal

end Setting

def Hints.join (a b : Hints) : Hints where
  hasMain := a.hasMain || b.hasMain
  hasTest := a.hasTest || b.hasTest
  hasProcMacro := a.hasProcMacro || b.hasProcMacro

theorem Hints.join_assoc (a b c : Hints) : (a.join b).join c = a.join (b.join c) := by
  simp [join, Bool.or_assoc]

theorem Hints.join_empty (a : Hints) : a.join {} = a := by
  simp [join]

def Markers.hints (m : Markers) : Hints :=
  { hasTest := m.isTest, hasProcMacro := m.isProcMacro }

/-- What reading a part of a file comes to: the references to crates in their order, repeated ones
too, the local names that are visible behind it, and the hints. -/
structure Reading where
  emitted : List Record := []
  visible : List String
  hints : Hints := {}

/-- A part of a file, seen as what it comes to in a setting and among visible local names. -/
abbrev Meaning := Setting → List String → Reading

namespace Meaning

def nothing : Meaning := fun _ visible => { visible }

def andThen (a b : Meaning) : Meaning := fun c visible =>
  let r := a c visible
  let q := b c r.visible
  { emitted := r.emitted ++ q.emitted, visible := q.visible, hints := r.hints.join q.hints }

def all (parts : List Meaning) : Meaning := parts.foldr andThen nothing

def emit (name : String) (line : Int) : Meaning := fun c visible =>
  { emitted :=
      if isPathKeyword name || visible.contains name then [] else [⟨name, c.build, some line⟩]
    visible }

def bring (name : String) : Meaning := fun _ visible => { visible := name :: visible }

def enclosed (marked : Bool) (body : Meaning) : Meaning := fun c visible =>
  { body (c.within marked) visible with visible }

def telling (hints : Hints) (m : Meaning) : Meaning := fun c visible =>
  let r := m c visible
  { r with hints := hints.join r.hints }

def freeFunction (name : Option String) (markers : Markers) (body : Meaning) : Meaning :=
  fun c visible =>
    if c.outermost && name = some "main" then
      telling { hasMain := true } (enclosed false body) c visible
    else
      telling markers.hints (enclosed markers.isTest body) c visible

theorem nothing_andThen (m : Meaning) : nothing.andThen m = m := by
  funext c visible
  simp [andThen, nothing, Hints.join]

theorem andThen_nothing (m : Meaning) : m.andThen nothing = m := by
  funext c visible
  simp [andThen, nothing, Hints.join]

theorem andThen_assoc (a b d : Meaning) : (a.andThen b).andThen d = a.andThen (b.andThen d) := by
  funext c visible
  simp [andThen, Hints.join, List.append_assoc, Bool.or_assoc]

end Meaning

mutual
/-- What a step comes to where each scope reads its body with a copy of the visible names. -/
def Step.meaning : Step → Meaning
  | .refer name line => .emit name line
  | .declare name => .bring name
  | .unreadable _ => .nothing
  | .scope marked body => .enclosed marked (meaningAll body)
  | .function name markers body =>
    .freeFunction (name.bind Except.toOption) (markers.toOption.getD ⟨false, false, false⟩)
      (meaningAll body)

def Step.meaningAll : List Step → Meaning
  | [] => .nothing
  | step :: steps => step.meaning.andThen (meaningAll steps)
end

theorem Step.meaningAll_append (a b : List Step) :
    Step.meaningAll (a ++ b) = (Step.meaningAll a).andThen (Step.meaningAll b) := by
  induction a with
  | nil => exact (Meaning.nothing_andThen _).symm
  | cons step steps ih =>
    rw [List.cons_append, Step.meaningAll, Step.meaningAll, ih, Meaning.andThen_assoc]

theorem Step.meaningAll_singleton (step : Step) : Step.meaningAll [step] = step.meaning :=
  Meaning.andThen_nothing _

structure Survey.Reads (s : Survey) (c : Setting) (visible : List String) : Prop where
  tidy : s.scopes.Tidy
  testOnly : s.scopes.isTestOnly = c.testOnly
  outermost : s.scopes.isRoot = c.outermost
  names : ∀ name, s.scopes.isShadowed name = visible.contains name

structure Survey.Continues (s t : Survey) (c : Setting) (r : Reading) : Prop where
  reads : t.Reads c r.visible
  ledger : t.ledger = s.ledger.enterAll r.emitted
  hints : t.hints = s.hints.join r.hints

namespace Survey

theorem Continues.trans {s t u : Survey} {c : Setting} {r q : Reading} (h : s.Continues t c r)
    (g : t.Continues u c q) :
    s.Continues u c ⟨r.emitted ++ q.emitted, q.visible, r.hints.join q.hints⟩ where
  reads := g.reads
  ledger := by rw [g.ledger, h.ledger, Ledger.enterAll_append]
  hints := by rw [g.hints, h.hints, Hints.join_assoc]

theorem ledger_declare (s : Survey) (name : String) : (s.declare name).ledger = s.ledger := by
  unfold declare
  split <;> rfl

theorem hints_declare (s : Survey) (name : String) : (s.declare name).hints = s.hints := by
  unfold declare
  split <;> rfl

theorem hints_refer (s : Survey) (name : String) (line : Option Int) :
    (s.refer name line).hints = s.hints := by
  unfold refer
  split
  · rfl
  · split
    · rfl
    · split <;> rfl

theorem ledger_refer (s : Survey) (name : String) (line : Option Int) :
    (s.refer name line).ledger =
      if isPathKeyword name || s.scopes.isShadowed name then s.ledger
      else s.ledger.enter ⟨name, s.build, line⟩ := by
  unfold refer
  cases isPathKeyword name with
  | true => rfl
  | false =>
    cases s.scopes.isShadowed name with
    | true => rfl
    | false =>
      cases hh : s.ledger.holds s.build name with
      | true => simp [Ledger.enter, hh]
      | false => simp

theorem grows_refer (s : Survey) (name : String) (line : Option Int) :
    s.ledger.Grows (s.refer name line).ledger := by
  rw [ledger_refer]
  split
  · exact .refl _
  · exact s.ledger.grows_enter _

theorem Reads.build {s : Survey} {c : Setting} {visible : List String} (h : s.Reads c visible) :
    s.build = c.build := by
  rw [Survey.build, Setting.build, h.testOnly]

theorem Reads.push {s : Survey} {c : Setting} {visible : List String} (h : s.Reads c visible)
    (marked : Bool) : (s.push marked).Reads (c.within marked) visible where
  tidy := h.tidy.push marked
  testOnly := by
    change (marked || s.scopes.isTestOnly) = (c.testOnly || marked)
    rw [h.testOnly, Bool.or_comm]
  outermost := rfl
  names := h.names

theorem Reads.refer {s : Survey} {c : Setting} {visible : List String} (h : s.Reads c visible)
    (name : String) (line : Int) :
    s.Continues (s.refer name (some line)) c (Meaning.emit name line c visible) where
  reads := by
    refine ⟨?_, ?_, ?_, ?_⟩ <;> rw [scopes_refer]
    · exact h.tidy
    · exact h.testOnly
    · exact h.outermost
    · exact h.names
  ledger := by
    rw [ledger_refer, h.names, h.build]
    unfold Meaning.emit
    split <;> simp_all [Ledger.enterAll]
  hints := by
    rw [hints_refer]
    exact s.hints.join_empty.symm

theorem Reads.declare {s : Survey} {c : Setting} {visible : List String} (h : s.Reads c visible)
    (name : String) : s.Continues (s.declare name) c (Meaning.bring name c visible) where
  reads := by
    have hg := s.scopes.grows_declare name
    refine ⟨?_, ?_, ?_, ?_⟩ <;> rw [scopes_declare]
    · exact h.tidy.declare name
    · rw [hg.isTestOnly_eq, h.testOnly]
    · rw [hg.isRoot_eq, h.outermost]
    · intro n
      rw [ScopeStack.isShadowed_declare, h.names]
      simp [Meaning.bring]
  ledger := ledger_declare s name
  hints := by
    rw [hints_declare]
    exact s.hints.join_empty.symm

theorem Continues.tell {s t : Survey} {c : Setting} {r : Reading} (own : Hints)
    (h : { s with hints := s.hints.join own }.Continues t c r) :
    s.Continues t c { r with hints := own.join r.hints } :=
  ⟨h.reads, h.ledger, by rw [h.hints, Hints.join_assoc]⟩

theorem enterFunction_eq (s : Survey) (name : Option String) (markers : Markers) :
    s.enterFunction (name.map .ok) (.ok markers) =
      if s.scopes.isRoot && name = some "main" then
        .ok (false, { s with hints := s.hints.join { hasMain := true } })
      else
        .ok (markers.isTest, { s with hints := s.hints.join markers.hints }) := by
  unfold enterFunction
  cases s.scopes.isRoot with
  | false => simp [Hints.join, Markers.hints]
  | true =>
    cases name with
    | none => simp [Hints.join, Markers.hints]
    | some name =>
      by_cases hn : name = "main"
      · simp [hn, Hints.join]
      · simp [hn, Hints.join, Markers.hints]

end Survey

/-- A function without gaps has a readable name, if any, and readable markers. -/
theorem Step.function_of_gaps {name : Option (Except Kind String)}
    {markers : Except Kind Markers} {body : List Step}
    (h : (Step.function name markers body).gaps = []) :
    name = (name.bind Except.toOption).map .ok ∧
      markers = .ok (markers.toOption.getD ⟨false, false, false⟩) ∧ Step.gapsAll body = [] := by
  obtain ⟨h, hb⟩ := List.append_eq_nil_iff.mp h
  obtain ⟨hn, hm⟩ := List.append_eq_nil_iff.mp h
  refine ⟨?_, ?_, hb⟩
  · match name with
    | none => rfl
    | some (.ok _) => rfl
    | some (.error _) => cases hn
  · match markers with
    | .ok _ => rfl
    | .error _ => cases hm

/-- The steps come to what they mean, whatever the survey was told before. -/
def Step.Faithful (steps : List Step) : Prop :=
  ∀ {s : Survey} {c : Setting} {visible : List String}, s.Reads c visible →
    ∃ t, Step.runAll steps s = (none, t) ∧ s.Continues t c (Step.meaningAll steps c visible)

/-- A body that is read in a scope of its own leaves what it found, and no names. -/
theorem Step.Faithful.enclosed {body : List Step} (hb : Step.Faithful body) {s : Survey}
    {c : Setting} {visible : List String} (h : s.Reads c visible) (marked : Bool) :
    ∃ t, Survey.close (Step.runAll body (s.push marked)) = (none, t) ∧
      s.Continues t c (Meaning.enclosed marked (Step.meaningAll body) c visible) := by
  obtain ⟨t, ht, hc⟩ := hb (h.push marked)
  have hg := Step.grows_runAll (s.push marked) body
  rw [ht] at hg ⊢
  refine ⟨_, Survey.close_restores h.tidy hc.reads.tidy hg none, ?_, hc.ledger, hc.hints⟩
  exact ⟨h.tidy, h.testOnly, h.outermost, h.names⟩

theorem Step.Faithful.telling {body : List Step} (hb : Step.Faithful body) {s : Survey}
    {c : Setting} {visible : List String} (h : s.Reads c visible) (own : Hints) (marked : Bool) :
    ∃ t, Survey.close (Step.runAll body
        ({ s with hints := s.hints.join own }.push marked)) = (none, t) ∧
      s.Continues t c
        (Meaning.telling own (.enclosed marked (Step.meaningAll body)) c visible) := by
  have hs : { s with hints := s.hints.join own }.Reads c visible :=
    ⟨h.tidy, h.testOnly, h.outermost, h.names⟩
  obtain ⟨t, ht, hc⟩ := hb.enclosed hs marked
  exact ⟨t, ht, hc.tell own⟩

mutual
/-- By induction on the steps: the survey, which opens and closes scopes, comes to what the steps
mean, which copies the visible names for each body. -/
theorem Step.run_meaning {s : Survey} {c : Setting} {visible : List String}
    (h : s.Reads c visible) : ∀ step : Step, step.gaps = [] →
      ∃ t, step.run s = (none, t) ∧ s.Continues t c (step.meaning c visible)
  | .refer name line, _ => ⟨_, rfl, h.refer name line⟩
  | .declare name, _ => ⟨_, rfl, h.declare name⟩
  | .unreadable _, hs => by cases hs
  | .scope marked body, hs =>
    have hb : Step.Faithful body := fun h => Step.runAll_meaning h body hs
    hb.enclosed h marked
  | .function name markers body, hs => by
    obtain ⟨hn, hm, hg⟩ := Step.function_of_gaps hs
    have hb : Step.Faithful body := fun h => Step.runAll_meaning h body hg
    simp only [Step.run, Step.meaning]
    generalize markers.toOption.getD _ = m at hm ⊢
    generalize name.bind Except.toOption = n at hn ⊢
    subst hn hm
    rw [Survey.enterFunction_eq, h.outermost, Meaning.freeFunction]
    cases c.outermost && n = some "main" with
    | true => exact hb.telling h { hasMain := true } false
    | false => exact hb.telling h m.hints m.isTest

theorem Step.runAll_meaning {s : Survey} {c : Setting} {visible : List String}
    (h : s.Reads c visible) : ∀ steps : List Step, Step.gapsAll steps = [] →
      ∃ t, Step.runAll steps s = (none, t) ∧ s.Continues t c (Step.meaningAll steps c visible)
  | [], _ => ⟨s, rfl, h, rfl, s.hints.join_empty.symm⟩
  | step :: steps, hs => by
    obtain ⟨h₁, h₂⟩ := List.append_eq_nil_iff.mp hs
    obtain ⟨t, ht, hc⟩ := Step.run_meaning h step h₁
    obtain ⟨u, hu, hd⟩ := Step.runAll_meaning hc.reads steps h₂
    exact ⟨u, by simp only [Step.runAll, ht, hu], hc.trans hd⟩
end

theorem Survey.reads_empty : ({} : Survey).Reads {} [] where
  tidy := ScopeStack.tidy_empty
  testOnly := rfl
  outermost := rfl
  names := fun _ => rfl

def Outline.discover (o : Outline) : Except Fault Discovery :=
  match Step.runAll o {} with
  | (none, s) => if s.scopes.isRoot then .ok (.ofSurvey s) else .error .openScopes
  | (some fault, _) => .error fault

theorem Node.discover_eq_outline (root : Node) : root.discover = root.outline.discover := by
  unfold discover survey Outline.discover
  cases Step.runAll root.outline {} with
  | mk stop s =>
    cases stop with
    | some fault => rfl
    | none =>
      dsimp only
      cases s.scopes.isRoot <;> rfl

/-- An outline without gaps is read to its end, and what is found is what it means. -/
theorem Outline.discover_of_gapless {o : Outline} (h : Step.gapsAll o = []) :
    ∃ t : Survey, o.discover = .ok (.ofSurvey t) ∧
      t.ledger = ({} : Ledger).enterAll (Step.meaningAll o {} []).emitted ∧
      t.hints = (Step.meaningAll o {} []).hints := by
  obtain ⟨t, ht, hc⟩ := Step.runAll_meaning Survey.reads_empty o h
  refine ⟨t, ?_, hc.ledger, ?_⟩
  · have hroot : t.scopes.isRoot = true := hc.reads.outermost
    unfold discover
    rw [ht]
    exact if_pos hroot
  · rw [hc.hints]
    simp [Hints.join]

theorem Node.discover_of_gapless {root : Node} (h : Step.gapsAll root.outline = []) :
    ∃ t : Survey, root.discover = .ok (.ofSurvey t) ∧
      t.ledger = ({} : Ledger).enterAll (Step.meaningAll root.outline {} []).emitted ∧
      t.hints = (Step.meaningAll root.outline {} []).hints :=
  root.discover_eq_outline ▸ Outline.discover_of_gapless h

theorem Node.Legible.gapsAll_outline {root : Node} (h : root.Legible) :
    Step.gapsAll root.outline = [] :=
  List.eq_nil_iff_forall_not_mem.mpr (Outline.explained_outline h)

/-- A tree whose nodes all have a text is read to its end, and what is found is what its outline
means. -/
theorem Node.discover_of_outline {root : Node} (h : root.Legible) :
    ∃ t : Survey, root.discover = .ok (.ofSurvey t) ∧
      t.ledger = ({} : Ledger).enterAll (Step.meaningAll root.outline {} []).emitted ∧
      t.hints = (Step.meaningAll root.outline {} []).hints :=
  discover_of_gapless h.gapsAll_outline

end CrateUsage
