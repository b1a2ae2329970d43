import CrateUsage.Proofs.Meaning

namespace CrateUsage

mutual
/-- The references of a run that count, repeated ones too: a name counts unless it is a path keyword
or local at the moment it is referred to, and it counts for the builds of the scope it stands in. -/
def Step.sightings : Step → Survey → List Record
  | .refer name line, s =>
    if isPathKeyword name || s.scopes.isShadowed name then [] else [⟨name, s.build, some line⟩]
  | .declare _, _ => []
  | .unreadable _, _ => []
  | .scope marked body, s => sightingsAll body (s.push marked)
  | .function name markers body, s =>
    match s.enterFunction name markers with
    | .ok (isTest, s) => sightingsAll body (s.push isTest)
    | .error _ => []

def Step.sightingsAll : List Step → Survey → List Record
  | [], _ => []
  | step :: steps, s =>
    step.sightings s ++
      match step.run s with
      | (none, s) => sightingsAll steps s
      | (some _, _) => []
end

def Node.sightings (root : Node) : List Record := Step.sightingsAll root.outline {}

namespace Survey

theorem ledger_close (fault : Option Fault) (s : Survey) :
    (close (fault, s)).2.ledger = s.ledger := by
  simp only [close]
  split
  · rename_i hp
    obtain ⟨scopes, -, rfl⟩ := pop?_eq_some hp
    rfl
  · rfl

theorem enterFunction_ledger {s t : Survey} {name : Option (Except Kind String)}
    {markers : Except Kind Markers} {isTest : Bool}
    (h : s.enterFunction name markers = .ok (isTest, t)) : t.ledger = s.ledger := by
  unfold enterFunction at h
  split at h
  · cases h
  · cases h
    rfl
  · split at h <;> cases h
    rfl

end Survey

mutual
/-- By induction on the steps, and whether or not they come to their end: the ledger of a run holds
what counted in it. -/
theorem Step.ledger_run (s : Survey) : ∀ step : Step,
    (step.run s).2.ledger = s.ledger.enterAll (step.sightings s)
  | .refer name line => by
    simp only [Step.run, Step.sightings, Survey.ledger_refer]
    split <;> rfl
  | .declare name => Survey.ledger_declare s name
  | .unreadable _ => rfl
  | .scope marked body => by
    simp only [Step.run, Step.sightings]
    exact (Survey.ledger_close _ _).trans (Step.ledger_runAll (s.push marked) body)
  | .function name markers body => by
    simp only [Step.run, Step.sightings]
    cases he : s.enterFunction name markers with
    | error fault => rfl
    | ok entered =>
      obtain ⟨isTest, t⟩ := entered
      rw [← Survey.enterFunction_ledger he]
      exact (Survey.ledger_close _ _).trans (Step.ledger_runAll (t.push isTest) body)

theorem Step.ledger_runAll (s : Survey) : ∀ steps : List Step,
    (Step.runAll steps s).2.ledger = s.ledger.enterAll (Step.sightingsAll steps s)
  | [] => rfl
  | step :: steps => by
    have hs := Step.ledger_run s step
    simp only [Step.runAll, Step.sightingsAll, Ledger.enterAll_append, ← hs]
    cases hr : step.run s with
    | mk stop t =>
      cases stop with
      | some fault => rfl
      | none => exact Step.ledger_runAll t steps
end

mutual
/-- Every sighting in a tree has a line. -/
theorem Step.line_of_sighting {r : Record} : ∀ (step : Step) {s : Survey},
    r ∈ step.sightings s → ∃ line, r.line = some line
  | .refer name line, s, h => by
    simp only [Step.sightings] at h
    split at h
    · cases h
    · rw [List.mem_singleton.mp h]
      exact ⟨line, rfl⟩
  | .declare _, _, h => by cases h
  | .unreadable _, _, h => by cases h
  | .scope _ body, _, h => Step.line_of_sightingAll body h
  | .function name markers body, s, h => by
    simp only [Step.sightings] at h
    split at h
    · exact Step.line_of_sightingAll body h
    · cases h

theorem Step.line_of_sightingAll {r : Record} : ∀ (steps : List Step) {s : Survey},
    r ∈ Step.sightingsAll steps s → ∃ line, r.line = some line
  | [], _, h => by cases h
  | step :: steps, s, h => by
    simp only [Step.sightingsAll, List.mem_append] at h
    rcases h with h | h
    · exact Step.line_of_sighting step h
    · split at h
      · exact Step.line_of_sightingAll steps h
      · cases h
end

/-- What is found in a tree is what was entered for the references that count. -/
theorem Node.ledger_of_discover {root : Node} {d : Discovery} (h : root.discover = .ok d) :
    ∃ t : Survey, d = .ofSurvey t ∧ t.ledger = ({} : Ledger).enterAll root.sightings := by
  unfold discover at h
  rw [survey_eq] at h
  have hl := Step.ledger_runAll {} root.outline
  cases hr : Step.runAll root.outline {} with
  | mk stop t =>
    rw [hr] at h hl
    cases stop with
    | some fault => cases h
    | none =>
      cases h
      exact ⟨t, rfl, hl⟩

end CrateUsage
