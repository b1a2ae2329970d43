import CrateUsage.Proofs.LocalNames
import CrateUsage.Discovery

namespace CrateUsage

/-- What a part of a file may do to the scopes it stands in: it opens and closes scopes of its own,
and leaves nothing behind but names, which come last among those of the innermost frame. -/
structure ScopeStack.Grows (s t : ScopeStack) : Prop where
  depth_eq : t.depth = s.depth
  below : t.frames.tail = s.frames.tail
  flags : t.frames.map Frame.testOnly = s.frames.map Frame.testOnly
  names : s.top.names <+: t.top.names

namespace ScopeStack

theorem Grows.of_top {s t : ScopeStack} (below : t.frames.tail = s.frames.tail)
    (flag : t.top.testOnly = s.top.testOnly) (names : s.top.names <+: t.top.names) :
    s.Grows t := by
  refine ⟨?_, below, ?_, names⟩
  · rw [← length_frames, ← length_frames, t.frames_eq, s.frames_eq]
    simp [below]
  · rw [t.frames_eq, s.frames_eq, List.map_cons, List.map_cons, flag, below]

theorem Grows.of_frames {s t : ScopeStack} (hi : t.inner = s.inner) (hr : t.root = s.root) :
    s.Grows t :=
  .of_top (by simp [frames, hi, hr]) (by simp [top, hi, hr]) (by simp [top, hi, hr])

theorem Grows.refl (s : ScopeStack) : s.Grows s := .of_frames rfl rfl

theorem Grows.trans {s t u : ScopeStack} (h : s.Grows t) (g : t.Grows u) : s.Grows u :=
  ⟨g.depth_eq.trans h.depth_eq, g.below.trans h.below, g.flags.trans h.flags,
    h.names.trans g.names⟩

theorem Grows.isRoot_eq {s t : ScopeStack} (h : s.Grows t) : t.isRoot = s.isRoot := by
  have hd := h.depth_eq
  unfold depth at hd
  cases hs : s.inner <;> cases ht : t.inner <;> simp_all [isRoot]

theorem Grows.isTestOnly_eq {s t : ScopeStack} (h : s.Grows t) : t.isTestOnly = s.isTestOnly := by
  have hf := h.flags
  rw [t.frames_eq, s.frames_eq] at hf
  exact (List.cons.inj hf).1

theorem grows_declare (s : ScopeStack) (name : String) : s.Grows (s.declare name) := by
  cases hs : s.isShadowed name with
  | true =>
    rw [declare_of_shadowed hs]
    exact .refl s
  | false =>
    have hf := frames_declare hs
    have ht := (s.declare name).frames_eq.symm.trans hf
    obtain ⟨htop, htail⟩ := List.cons.inj ht
    exact .of_top htail (by rw [htop]) (by rw [htop]; exact List.prefix_append _ _)

/-- What grew from a frame that was just opened closes that frame and no other. -/
theorem Grows.pop {s t : ScopeStack} {marked : Bool} (h : (s.push marked).Grows t) :
    ∃ frame u, t.pop? = some (frame, u) ∧ u.inner = s.inner ∧ u.root = s.root := by
  have hd := h.depth_eq
  have hb := h.below
  cases hi : t.inner with
  | nil => simp [depth, push, hi] at hd
  | cons frame rest =>
    have hf : rest ++ [t.root] = s.inner ++ [s.root] := by
      simpa [frames, push, hi] using hb
    obtain ⟨hr, ht⟩ := List.append_inj' hf rfl
    have hp : t.pop? = some (frame, { t with
        inner := rest, owners := frame.names.foldl (fun o n => release n o) t.owners }) := by
      simp only [pop?, hi]
    exact ⟨frame, _, hp, hr, List.singleton_inj.mp ht⟩

end ScopeStack

namespace Survey

/-- Closing a scope that was opened around a body keeps what the body found and how it ended. -/
theorem close_of_grows {s : ScopeStack} {t : Survey} {marked : Bool}
    (h : (s.push marked).Grows t.scopes) (fault : Option Fault) :
    ∃ scopes, close (fault, t) = (fault, { t with scopes }) ∧ scopes.inner = s.inner ∧
      scopes.root = s.root ∧ (t.scopes.Tidy → scopes.Tidy) := by
  obtain ⟨frame, u, hp, hi, hr⟩ := h.pop
  refine ⟨u, ?_, hi, hr, fun ht => ht.pop hp⟩
  simp [close, pop?, hp]

theorem grows_close {s : ScopeStack} {t : Survey} {marked : Bool}
    (h : (s.push marked).Grows t.scopes) (fault : Option Fault) :
    s.Grows (close (fault, t)).2.scopes ∧ (close (fault, t)).1 = fault := by
  obtain ⟨scopes, hc, hi, hr, -⟩ := close_of_grows h fault
  rw [hc]
  exact ⟨.of_frames hi hr, rfl⟩

/-- Where the look-up table follows from the frames, it is restored with them. -/
theorem close_restores {s : ScopeStack} {t : Survey} {marked : Bool} (hs : s.Tidy)
    (ht : t.scopes.Tidy) (h : (s.push marked).Grows t.scopes) (fault : Option Fault) :
    close (fault, t) = (fault, { t with scopes := s }) := by
  obtain ⟨scopes, hc, hi, hr, tidy⟩ := close_of_grows h fault
  rw [hc, (tidy ht).ext hs hi hr]

theorem enterFunction_scopes {s t : Survey} {name : Option (Except Kind String)}
    {markers : Except Kind Markers} {isTest : Bool}
    (h : s.enterFunction name markers = .ok (isTest, t)) : t.scopes = s.scopes := by
  unfold enterFunction at h
  split at h
  · cases h
  · cases h
    rfl
  · split at h <;> cases h
    rfl

end Survey

mutual
/-- By induction on the steps. A body is read on a frame of its own, and what grows from that frame
is closed again, whether or not the body came to its end. -/
theorem Step.grows_run (s : Survey) : ∀ step : Step, s.scopes.Grows (step.run s).2.scopes
  | .refer name line => by
    simp only [Step.run, Survey.scopes_refer]
    exact .refl _
  | .declare name => by
    simp only [Step.run, Survey.scopes_declare]
    exact s.scopes.grows_declare name
  | .unreadable kind => .refl _
  | .scope marked body => by
    have hb : (s.scopes.push marked).Grows (Step.runAll body (s.push marked)).2.scopes :=
      Step.grows_runAll (s.push marked) body
    exact (Survey.grows_close hb _).1
  | .function name markers body => by
    simp only [Step.run]
    split
    · exact .refl _
    · rename_i isTest t he
      rw [← Survey.enterFunction_scopes he]
      exact (Survey.grows_close (Step.grows_runAll (t.push isTest) body) _).1

theorem Step.grows_runAll (s : Survey) :
    ∀ steps : List Step, s.scopes.Grows (Step.runAll steps s).2.scopes
  | [] => .refl _
  | step :: steps => by
    have hs := Step.grows_run s step
    simp only [Step.runAll]
    split
    · rename_i t he
      rw [he] at hs
      exact hs.trans (Step.grows_runAll t steps)
    · exact hs
end

end CrateUsage
