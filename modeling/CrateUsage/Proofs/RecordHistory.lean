import CrateUsage.Proofs.Meaning
import CrateUsage.Proofs.ScopeHistory
import Mathlib.Data.List.Induction
import Mathlib.Tactic.Push

namespace CrateUsage

namespace Script

def isSingle : Action → Bool
  | .block .. => false
  | _ => true

mutual
/-- A block opens a scope, does what its body does, and closes the scope. -/
def singleSteps : Action → List Action
  | .block marked body _ => .push marked :: (singleStepsAll body ++ [.pop])
  | .push marked => [.push marked]
  | .pop => [.pop]
  | .declare name => [.declare name]
  | .shadowed name => [.shadowed name]
  | .refer name line => [.refer name line]

def singleStepsAll : List Action → List Action
  | [] => []
  | action :: actions => singleSteps action ++ singleStepsAll actions
end

mutual
theorem isSingle_of_mem_singleSteps {step : Action} :
    ∀ action : Action, step ∈ singleSteps action → isSingle step = true
  | .push _, h | .pop, h | .declare _, h | .shadowed _, h | .refer _ _, h => by
    rw [List.mem_singleton.mp h]
    rfl
  | .block marked body error, h => by
    simp only [singleSteps, List.mem_cons, List.mem_append, List.not_mem_nil, or_false] at h
    rcases h with rfl | h | rfl
    · rfl
    · exact isSingle_of_mem_singleStepsAll body h
    · rfl

theorem isSingle_of_mem_singleStepsAll {step : Action} :
    ∀ actions : List Action, step ∈ singleStepsAll actions → isSingle step = true
  | [], h => by cases h
  | action :: actions, h => by
    rcases List.mem_append.mp h with h | h
    · exact isSingle_of_mem_singleSteps action h
    · exact isSingle_of_mem_singleStepsAll actions h
end

theorem singleStepsAll_eq {actions : List Action} (h : ∀ action ∈ actions, isSingle action = true) :
    singleStepsAll actions = actions := by
  induction actions with
  | nil => rfl
  | cons action actions ih =>
    obtain ⟨ha, hs⟩ := List.forall_mem_cons.mp h
    rw [singleStepsAll, ih hs]
    cases action with
    | block marked body error => cases ha
    | push _ | pop | declare _ | shadowed _ | refer _ _ => rfl

theorem runAll_append (first second : List Action) (stage : Stage) :
    (runAll (first ++ second) stage).2 = (runAll second (runAll first stage).2).2 := by
  induction first generalizing stage with
  | nil => rfl
  | cons action actions ih =>
    simp only [List.cons_append, runAll]
    exact ih _

theorem runAll_singleton (action : Action) (stage : Stage) :
    (runAll [action] stage).2 = (runOne action stage).2 := rfl

def popped (s : Survey) : Survey := s.pop?.elim s Prod.snd

theorem survey_pop (stage : Stage) : (runOne .pop stage).2.survey = popped stage.survey := by
  simp only [runOne, Stage.pop?, popped]
  cases stage.survey.pop? <;> rfl

theorem survey_leave (stage : Stage) (error : String) :
    (stage.leave error).2.survey = popped stage.survey := by
  simp only [Stage.leave, Stage.pop?, popped]
  cases stage.survey.pop? <;> rfl

mutual
/-- What the blocks of a stage remember is for their outcomes, and the survey does not hang on
it. -/
theorem survey_singleSteps {s t : Stage} (h : s.survey = t.survey) : ∀ action : Action,
    (runAll (singleSteps action) s).2.survey = (runOne action t).2.survey
  | .push marked => congrArg (·.push marked) h
  | .pop => by
    rw [singleSteps, runAll_singleton, survey_pop, survey_pop, h]
  | .declare name => congrArg (·.declare name) h
  | .shadowed _ => h
  | .refer name line => congrArg (·.refer name line) h
  | .block marked body error => by
    have hopen : (runOne (.push marked) s).2.survey = (t.enter marked).survey :=
      congrArg (·.push marked) h
    have hbody := survey_singleStepsAll hopen body
    rw [singleSteps, ← List.singleton_append, runAll_append, runAll_append, runAll_singleton,
      runAll_singleton, survey_pop, hbody]
    simp only [runOne, survey_leave]

theorem survey_singleStepsAll {s t : Stage} (h : s.survey = t.survey) :
    ∀ actions : List Action,
      (runAll (singleStepsAll actions) s).2.survey = (runAll actions t).2.survey
  | [] => h
  | action :: actions => by
    rw [singleStepsAll, runAll_append]
    exact survey_singleStepsAll (survey_singleSteps h action) actions
end

theorem ledger_popped (s : Survey) : (popped s).ledger = s.ledger := by
  unfold popped
  cases hp : s.pop? with
  | none => rfl
  | some closed =>
    obtain ⟨scopes, -, hclosed⟩ := Survey.pop?_eq_some hp
    rw [Option.elim_some, hclosed]

mutual
/-- No action takes anything out of the ledger. -/
theorem grows_runOne (stage : Stage) : ∀ action : Action,
    stage.survey.ledger.Grows (runOne action stage).2.survey.ledger
  | .push _ => .refl _
  | .pop => by
    rw [survey_pop, ledger_popped]
    exact .refl _
  | .declare name => by
    simp only [runOne, Survey.ledger_declare]
    exact .refl _
  | .shadowed _ => .refl _
  | .refer name line => stage.survey.grows_refer name line
  | .block marked body error => by
    simp only [runOne, survey_leave, ledger_popped]
    exact grows_runAll (stage.enter marked) body

theorem grows_runAll (stage : Stage) : ∀ actions : List Action,
    stage.survey.ledger.Grows (runAll actions stage).2.survey.ledger
  | [] => .refl _
  | action :: actions => (grows_runOne stage action).trans (grows_runAll _ actions)
end

end Script

namespace ScopeHistory

/-- A reference to the name counts for a kind of build: the name is no path keyword, it was declared
in no scope that is still open, and tests alone are meant exactly where such a scope was marked. -/
structure Counts (h : ScopeHistory) (name : String) (build : Build) : Prop where
  foreign : name ∉ ["crate", "self", "super"]
  undeclared : ∀ scope ∈ h.scopes, name ∉ scope.declared
  build_iff : build = .testOnly ↔ ∃ scope ∈ h.scopes, scope.marked = true

def CountsAt (steps : List Action) (i : Nat) (r : Record) : Prop :=
  steps[i]? = some (.refer r.name r.line) ∧
    (ScopeHistory.afterAll {} (steps.take i)).Counts r.name r.build

def FirstAt (steps : List Action) (i : Nat) (r : Record) : Prop :=
  CountsAt steps i r ∧ ∀ j < i, ∀ line, ¬CountsAt steps j { r with line }

theorem isPathKeyword_eq_false_iff (name : String) :
    isPathKeyword name = false ↔ name ∉ ["crate", "self", "super"] := by
  simp [isPathKeyword, and_assoc]

/-- The scopes and the history of a run agree on which references count. -/
theorem Traced.counts_iff {stage : Script.Stage} {h : ScopeHistory} (ht : Traced stage h)
    (name : String) (build : Build) :
    h.Counts name build ↔
      (isPathKeyword name || stage.survey.scopes.isShadowed name) = false ∧
        stage.survey.build = build := by
  have hshadowed : stage.survey.scopes.isShadowed name = false ↔
      ∀ scope ∈ h.scopes, name ∉ scope.declared := by
    rw [← Bool.not_eq_true, ht.1.isShadowed_iff, ScopeStack.mem_localNames, ht.2.mem_names,
      List.mem_flatMap]
    simp
  have hbuild : stage.survey.build = build ↔
      (build = .testOnly ↔ ∃ scope ∈ h.scopes, scope.marked = true) := by
    rw [← List.any_eq_true, ← ht.2.isTestOnly_eq, Survey.build]
    cases stage.survey.scopes.isTestOnly <;> cases build <;> simp
  rw [Bool.or_eq_false_iff, isPathKeyword_eq_false_iff, hshadowed, hbuild, and_assoc]
  constructor
  · intro hc
    exact ⟨hc.foreign, hc.undeclared, hc.build_iff⟩
  · rintro ⟨hforeign, hundeclared, hmarked⟩
    exact ⟨hforeign, hundeclared, hmarked⟩

section Positions

variable {steps : List Action} {action : Action} {i : Nat} {r q : Record}

theorem CountsAt.lt_length (h : CountsAt steps i r) : i < steps.length :=
  (List.getElem?_eq_some_iff.mp h.1).1

/-- What is at a position is at most one record. -/
theorem CountsAt.unique (h : CountsAt steps i r) (g : CountsAt steps i q) : r = q := by
  have hstep := h.1.symm.trans g.1
  simp only [Option.some.injEq, Action.refer.injEq] at hstep
  have hbuild := h.2.build_iff.trans g.2.build_iff.symm
  obtain ⟨name, build, line⟩ := r
  obtain ⟨name', build', line'⟩ := q
  cases build <;> cases build' <;> simp_all

theorem countsAt_append_of_lt (hi : i < steps.length) :
    CountsAt (steps ++ [action]) i r ↔ CountsAt steps i r := by
  unfold CountsAt
  rw [List.getElem?_append_left hi, List.take_append_of_le_length (Nat.le_of_lt hi)]

theorem countsAt_append_length :
    CountsAt (steps ++ [action]) steps.length r ↔
      action = .refer r.name r.line ∧ (ScopeHistory.afterAll {} steps).Counts r.name r.build := by
  unfold CountsAt
  rw [List.getElem?_concat_length, List.take_left', Option.some.injEq]
  rfl

/-- One more step leaves the first ones what they are, and may itself be one. -/
theorem firstAt_append :
    FirstAt (steps ++ [action]) i r ↔
      FirstAt steps i r ∨
        i = steps.length ∧ action = .refer r.name r.line ∧
          (ScopeHistory.afterAll {} steps).Counts r.name r.build ∧
          ∀ j line, ¬CountsAt steps j { r with line } := by
  constructor
  · rintro ⟨hc, hbefore⟩
    have hi := hc.lt_length
    rw [List.length_append, List.length_singleton] at hi
    rcases Nat.lt_succ_iff_lt_or_eq.mp hi with hi | rfl
    · refine .inl ⟨(countsAt_append_of_lt hi).mp hc, fun j hj line h => ?_⟩
      exact hbefore j hj line ((countsAt_append_of_lt (Nat.lt_trans hj hi)).mpr h)
    · obtain ⟨ha, hcounts⟩ := countsAt_append_length.mp hc
      refine .inr ⟨rfl, ha, hcounts, fun j line h => ?_⟩
      exact hbefore j h.lt_length line ((countsAt_append_of_lt h.lt_length).mpr h)
  · rintro (⟨hc, hbefore⟩ | ⟨rfl, ha, hcounts, hnone⟩)
    · have hi := hc.lt_length
      refine ⟨(countsAt_append_of_lt hi).mpr hc, fun j hj line h => ?_⟩
      exact hbefore j hj line ((countsAt_append_of_lt (Nat.lt_trans hj hi)).mp h)
    · refine ⟨countsAt_append_length.mpr ⟨ha, hcounts⟩, fun j hj line h => ?_⟩
      exact hnone j line ((countsAt_append_of_lt hj).mp h)

/-- Where some step counts, some step is the first that does. -/
theorem CountsAt.exists_firstAt (h : CountsAt steps i r) :
    ∃ j line, FirstAt steps j { r with line } := by
  induction i using Nat.strongRecOn generalizing r with
  | ind i ih =>
    by_cases hbefore : ∃ j < i, ∃ line, CountsAt steps j { r with line }
    · obtain ⟨j, hj, line, hc⟩ := hbefore
      have hfirst := ih j hj hc
      exact hfirst
    · push Not at hbefore
      exact ⟨i, r.line, h, hbefore⟩

end Positions

/-- What a ledger holds after single steps: a record for each first reference, in the order of the
steps, and the names that go with the records. -/
structure Enters (steps : List Action) (l : Ledger) : Prop where
  balanced : l.Balanced
  inOrder : ∃ found : List (Nat × Record), l.records = found.map (·.2) ∧
    (found.map (·.1)).Pairwise (· < ·) ∧ ∀ i r, (i, r) ∈ found ↔ FirstAt steps i r

namespace Enters

variable {steps : List Action} {l : Ledger}

theorem mem_iff (h : Enters steps l) (r : Record) :
    r ∈ l.records ↔ ∃ i, FirstAt steps i r := by
  obtain ⟨found, hr, -, hf⟩ := h.inOrder
  rw [hr, List.mem_map]
  constructor
  · rintro ⟨⟨i, q⟩, hm, rfl⟩
    exact ⟨i, (hf i q).mp hm⟩
  · rintro ⟨i, hfirst⟩
    exact ⟨(i, r), (hf i r).mpr hfirst, rfl⟩

theorem holds_iff (h : Enters steps l) (build : Build) (name : String) :
    l.holds build name = true ↔ ∃ i line, CountsAt steps i ⟨name, build, line⟩ := by
  rw [h.balanced.holds_iff]
  constructor
  · rintro ⟨r, hr, rfl, rfl⟩
    obtain ⟨i, hfirst⟩ := (h.mem_iff r).mp hr
    exact ⟨i, r.line, hfirst.1⟩
  · rintro ⟨i, line, hc⟩
    obtain ⟨j, line, hfirst⟩ := hc.exists_firstAt
    exact ⟨_, (h.mem_iff _).mpr ⟨j, hfirst⟩, rfl, rfl⟩

/-- The first of two references to a name for one kind of build is alone in being the first. -/
theorem nodup (h : Enters steps l) : (l.records.map fun r => (r.name, r.build)).Nodup := by
  obtain ⟨found, hr, hp, hf⟩ := h.inOrder
  rw [hr, List.map_map, List.Nodup, List.pairwise_map]
  refine (List.pairwise_map.mp hp).imp_of_mem fun {x y} hx hy hlt he => ?_
  obtain ⟨hn, hb⟩ := Prod.mk.inj he
  have hfirst := (hf _ _).mp hx
  have hlater := (hf _ _).mp hy
  refine hlater.2 x.1 hlt x.2.line ?_
  dsimp only [Function.comp_apply] at hn hb
  rw [← hn, ← hb]
  exact hfirst.1

/-- A step that is no first reference enters nothing. -/
theorem skip {action : Action} (h : Enters steps l)
    (hs : ∀ r : Record, action = .refer r.name r.line →
      (ScopeHistory.afterAll {} steps).Counts r.name r.build → l.holds r.build r.name = true) :
    Enters (steps ++ [action]) l := by
  have hsame : ∀ i r, FirstAt (steps ++ [action]) i r ↔ FirstAt steps i r := by
    intro i r
    rw [firstAt_append, or_iff_left_iff_imp]
    rintro ⟨-, ha, hcounts, hnone⟩
    obtain ⟨j, line, hc⟩ := (h.holds_iff _ _).mp (hs r ha hcounts)
    exact absurd hc (hnone j line)
  obtain ⟨found, hr, hp, hf⟩ := h.inOrder
  exact ⟨h.balanced, found, hr, hp, fun i r => (hf i r).trans (hsame i r).symm⟩

/-- A first reference is entered behind all others. -/
theorem enter {r : Record} (h : Enters steps l)
    (hc : (ScopeHistory.afterAll {} steps).Counts r.name r.build)
    (hh : l.holds r.build r.name = false) :
    Enters (steps ++ [.refer r.name r.line]) (l.enter r) := by
  have hnone : ∀ j line, ¬CountsAt steps j { r with line } := by
    intro j line hat
    rw [(h.holds_iff _ _).mpr ⟨j, line, hat⟩] at hh
    cases hh
  have hlast : FirstAt (steps ++ [.refer r.name r.line]) steps.length r :=
    firstAt_append.mpr (.inr ⟨rfl, rfl, hc, hnone⟩)
  obtain ⟨found, hr, hp, hf⟩ := h.inOrder
  refine ⟨h.balanced.enter r, found ++ [(steps.length, r)], ?_, ?_, ?_⟩
  · rw [Ledger.records_enter hh, hr, List.map_append]
    rfl
  · rw [List.map_append]
    refine List.pairwise_append.mpr ⟨hp, List.pairwise_singleton _ _, ?_⟩
    intro i hi j hj
    obtain ⟨⟨i, q⟩, hm, rfl⟩ := List.mem_map.mp hi
    rw [List.mem_singleton.mp hj]
    exact ((hf i q).mp hm).1.lt_length
  · intro i q
    rw [List.mem_append, List.mem_singleton, hf]
    constructor
    · rintro (hold | hnew)
      · exact firstAt_append.mpr (.inl hold)
      · cases hnew
        exact hlast
    · intro hfirst
      rcases firstAt_append.mp hfirst with hold | ⟨rfl, -⟩
      · exact .inl hold
      · exact .inr (by rw [hlast.1.unique hfirst.1])

end Enters

/-- One step keeps records and history together. -/
theorem Enters.step {steps : List Action} {stage : Script.Stage}
    (ht : Traced stage (ScopeHistory.afterAll {} steps)) (h : Enters steps stage.survey.ledger)
    {action : Action} (hs : Script.isSingle action = true) :
    Enters (steps ++ [action]) (Script.runOne action stage).2.survey.ledger := by
  cases action with
  | push marked => exact h.skip fun r hr => by cases hr
  | pop =>
    rw [Script.survey_pop, Script.ledger_popped]
    exact h.skip fun r hr => by cases hr
  | declare name =>
    simp only [Script.runOne, Survey.ledger_declare]
    exact h.skip fun r hr => by cases hr
  | shadowed name => exact h.skip fun r hr => by cases hr
  | refer name line =>
    simp only [Script.runOne, Survey.ledger_refer]
    split
    · rename_i hhidden
      refine h.skip fun r hr hc => ?_
      cases hr
      rw [((ht.counts_iff _ _).mp hc).1] at hhidden
      cases hhidden
    · rename_i hvisible
      have hc : (ScopeHistory.afterAll {} steps).Counts name stage.survey.build :=
        (ht.counts_iff _ _).mpr ⟨Bool.eq_false_iff.mpr hvisible, rfl⟩
      cases hh : stage.survey.ledger.holds stage.survey.build name with
      | true =>
        rw [Ledger.enter_of_holds hh]
        refine h.skip fun r hr hcounts => ?_
        cases hr
        rw [← ((ht.counts_iff _ _).mp hcounts).2]
        exact hh
      | false =>
        have hnew := h.enter (r := ⟨name, stage.survey.build, line⟩) hc hh
        exact hnew
  | block marked body error => cases hs

/-- By induction on the steps, the last one first. -/
theorem enters_run {steps : List Action} (hs : ∀ step ∈ steps, Script.isSingle step = true) :
    Enters steps (Script.runAll steps {}).2.survey.ledger := by
  induction steps using List.reverseRecOn with
  | nil =>
    refine ⟨Ledger.balanced_empty, [], rfl, .nil, fun i r => ⟨fun hm => ?_, fun hfirst => ?_⟩⟩
    · cases hm
    · exact absurd hfirst.1.lt_length (Nat.not_lt_zero i)
  | append_singleton steps action ih =>
    have hbefore := ih fun step hm => hs step (List.mem_append_left _ hm)
    have hlast := hs action (List.mem_append_right _ (List.mem_singleton.mpr rfl))
    have ht : Traced (Script.runAll steps {}).2 (ScopeHistory.afterAll {} steps) :=
      traced_runAll ⟨ScopeStack.tidy_empty, agrees_new⟩ steps
    rw [Script.runAll_append, Script.runAll_singleton]
    exact hbefore.step ht hlast

/-- The records after any script tell its history: each is that of the first reference to its name
that counted for its kind of build, they stand in the order of those references, none is of the same
name and builds as another, and what is recorded once stays as it is. The names of each build are
those of its records. -/
theorem records_tell_history (script : List Action) :
    let steps := Script.singleStepsAll script
    let ledger := (Script.runAll script {}).2.survey.ledger
    ((∀ action ∈ script, Script.isSingle action = true) → steps = script) ∧
    (∀ r, r ∈ ledger.records ↔ ∃ i, FirstAt steps i r) ∧
    (∃ found : List (Nat × Record), ledger.records = found.map (·.2) ∧
      (found.map (·.1)).Pairwise (· < ·) ∧ ∀ i r, (i, r) ∈ found ↔ FirstAt steps i r) ∧
    (ledger.records.map fun r => (r.name, r.build)).Nodup ∧
    (∀ more, ledger.records <+:
      (Script.runAll (script ++ more) {}).2.survey.ledger.records) ∧
    (∀ build, ledger.names build = (ledger.records.filter (·.build = build)).map Record.name) := by
  intro steps ledger
  have hledger : (Script.runAll steps {}).2.survey.ledger = ledger :=
    congrArg Survey.ledger (Script.survey_singleStepsAll rfl script)
  have hsingle : ∀ step ∈ steps, Script.isSingle step = true :=
    fun step => Script.isSingle_of_mem_singleStepsAll script
  have h : Enters steps ledger := hledger ▸ enters_run hsingle
  refine ⟨Script.singleStepsAll_eq, h.mem_iff, h.inOrder, h.nodup, ?_, h.balanced.names_eq⟩
  intro more
  rw [Script.runAll_append]
  exact (Script.grows_runAll _ more).records

end ScopeHistory
end CrateUsage
