import CrateUsage.Proofs.Meaning

namespace CrateUsage

/-- What the operations lead to from a survey: scopes are opened and closed in any order, names
declared and referred to in any of them, and hints told at any time. -/
inductive Survey.LeadsTo (s : Survey) : Survey → Prop
  | refl : LeadsTo s s
  | push {t : Survey} (h : LeadsTo s t) (marked : Bool) : LeadsTo s (t.push marked)
  | pop {t u : Survey} {frame : Frame} (h : LeadsTo s t) (hp : t.pop? = some (frame, u)) :
    LeadsTo s u
  | declare {t : Survey} (h : LeadsTo s t) (name : String) : LeadsTo s (t.declare name)
  | refer {t : Survey} (h : LeadsTo s t) (name : String) (line : Option Int) :
    LeadsTo s (t.refer name line)
  | tell {t : Survey} (h : LeadsTo s t) (hints : Hints) :
    LeadsTo s { t with hints := t.hints.join hints }

def Survey.Reachable (s : Survey) : Prop := ({} : Survey).LeadsTo s

namespace Survey.LeadsTo

variable {s t u : Survey}

/-- No operation makes the look-up table say other than the frames. -/
theorem tidy (h : s.LeadsTo t) (hs : s.scopes.Tidy) : t.scopes.Tidy := by
  induction h with
  | refl => exact hs
  | push _ marked ih => exact ih.push marked
  | pop _ hp ih =>
    obtain ⟨scopes, hscopes, he⟩ := pop?_eq_some hp
    subst he
    exact ih.pop hscopes
  | declare _ name ih =>
    rw [scopes_declare]
    exact ih.declare name
  | refer _ name line ih =>
    rw [scopes_refer]
    exact ih
  | tell _ _ ih => exact ih

theorem close {ended : Option Fault × Survey} (h : s.LeadsTo ended.2) :
    s.LeadsTo (Survey.close ended).2 := by
  obtain ⟨fault, t⟩ := ended
  simp only [Survey.close]
  split
  · rename_i frame u hp
    exact h.pop hp
  · exact h

theorem enterFunction {name : Option (Except Kind String)} {markers : Except Kind Markers}
    {isTest : Bool} (h : s.LeadsTo t) (he : t.enterFunction name markers = .ok (isTest, u)) :
    s.LeadsTo u := by
  unfold Survey.enterFunction at he
  split at he
  · cases he
  · cases he
    have hmain := h.tell { hasMain := true }
    simpa [Hints.join] using hmain
  · cases markers with
    | error kind => cases he
    | ok m =>
      cases he
      have htold := h.tell m.hints
      simpa [Hints.join, Markers.hints] using htold

end Survey.LeadsTo

mutual
/-- By induction on the steps: reading a part of a file, to its end or not, leads to nothing but
what the operations lead to. -/
theorem Step.leadsTo_run {s t : Survey} (h : s.LeadsTo t) : ∀ step : Step,
    s.LeadsTo (step.run t).2
  | .refer name line => h.refer name line
  | .declare name => h.declare name
  | .unreadable _ => h
  | .scope marked body => (Step.leadsTo_runAll (h.push marked) body).close
  | .function name markers body => by
    simp only [Step.run]
    split
    · exact h
    · rename_i isTest u he
      exact (Step.leadsTo_runAll ((h.enterFunction he).push isTest) body).close

theorem Step.leadsTo_runAll {s t : Survey} (h : s.LeadsTo t) : ∀ steps : List Step,
    s.LeadsTo (Step.runAll steps t).2
  | [] => h
  | step :: steps => by
    have hs := Step.leadsTo_run h step
    simp only [Step.runAll]
    split
    · rename_i u he
      rw [he] at hs
      exact Step.leadsTo_runAll hs steps
    · exact hs
end

theorem Survey.Reachable.tidy {s : Survey} (h : s.Reachable) : s.scopes.Tidy :=
  LeadsTo.tidy h ScopeStack.tidy_empty

end CrateUsage
