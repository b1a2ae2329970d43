import CrateUsage.Proofs.LocalNames
import CrateUsage.Script

namespace CrateUsage

/-- A scope as it was opened, with every name that was declared while it was the innermost one. -/
structure OpenScope where
  marked : Bool := false
  declared : List String := []

/-- The open scopes, innermost first, above the outermost one. Every declaration is kept with the
scope it was made in, repeated or not, and nothing else is kept. -/
structure ScopeHistory where
  inner : List OpenScope := []
  outermost : OpenScope := {}

namespace ScopeHistory

def scopes (h : ScopeHistory) : List OpenScope := h.inner ++ [h.outermost]

def push (h : ScopeHistory) (marked : Bool) : ScopeHistory :=
  { h with inner := { marked } :: h.inner }

def pop (h : ScopeHistory) : ScopeHistory := { h with inner := h.inner.tail }

def declare (h : ScopeHistory) (name : String) : ScopeHistory :=
  match h.inner with
  | [] => { h with outermost := { h.outermost with declared := name :: h.outermost.declared } }
  | scope :: rest => { h with inner := { scope with declared := name :: scope.declared } :: rest }

def top (h : ScopeHistory) : OpenScope := h.inner.headD h.outermost

theorem scopes_eq (h : ScopeHistory) : h.scopes = h.top :: h.scopes.tail := by
  cases hi : h.inner <;> simp [scopes, top, hi]

theorem scopes_declare (h : ScopeHistory) (name : String) :
    (h.declare name).scopes =
      { h.top with declared := name :: h.top.declared } :: h.scopes.tail := by
  cases hi : h.inner <;> simp [scopes, top, declare, hi]

mutual
def after (h : ScopeHistory) : Action → ScopeHistory
  | .push marked => h.push marked
  | .pop => h.pop
  | .declare name => h.declare name
  | .shadowed _ | .refer _ _ => h
  | .block marked body _ => ((h.push marked).afterAll body).pop

def afterAll (h : ScopeHistory) : List Action → ScopeHistory
  | [] => h
  | action :: actions => (h.after action).afterAll actions
end

/-- Frame by frame from the outside in, as many names are visible as were declared, and the flag
says whether a mark was met on the way. The names of one frame may be fewer than its declarations:
those of an outer frame are missing. -/
inductive Agrees : List Frame → List OpenScope → Prop
  | nil : Agrees [] []
  | cons {frame : Frame} {scope : OpenScope} {frames : List Frame} {scopes : List OpenScope}
      (flag : frame.testOnly = (scope :: scopes).any (·.marked))
      (names : ∀ name, name ∈ (frame :: frames).flatMap Frame.names ↔
        name ∈ (scope :: scopes).flatMap OpenScope.declared)
      (tail : Agrees frames scopes) : Agrees (frame :: frames) (scope :: scopes)

theorem Agrees.length_eq {fs : List Frame} {os : List OpenScope} (h : Agrees fs os) :
    fs.length = os.length := by
  induction h with
  | nil => rfl
  | cons _ _ _ ih => simp [ih]

theorem Agrees.mem_names {fs : List Frame} {os : List OpenScope} (h : Agrees fs os)
    (name : String) : name ∈ fs.flatMap Frame.names ↔ name ∈ os.flatMap OpenScope.declared := by
  cases h with
  | nil => simp
  | cons _ names _ => exact names name

theorem Agrees.isTestOnly_eq {s : ScopeStack} {os : List OpenScope} (h : Agrees s.frames os) :
    s.isTestOnly = os.any (·.marked) := by
  rw [s.frames_eq] at h
  cases h with
  | cons flag _ _ => exact flag

theorem agrees_new : Agrees ({} : ScopeStack).frames ({} : ScopeHistory).scopes :=
  .cons rfl (by simp) .nil

theorem Agrees.push {s : ScopeStack} {h : ScopeHistory} (ha : Agrees s.frames h.scopes)
    (marked : Bool) : Agrees (s.push marked).frames (h.push marked).scopes := by
  refine .cons ?_ ?_ ha
  · change (marked || s.isTestOnly) = (marked || h.scopes.any (·.marked))
    rw [ha.isTestOnly_eq]
  · intro name
    change name ∈ s.frames.flatMap Frame.names ↔ name ∈ h.scopes.flatMap OpenScope.declared
    exact ha.mem_names name

theorem Agrees.pop {s t : ScopeStack} {h : ScopeHistory} {frame : Frame}
    (ha : Agrees s.frames h.scopes) (hp : s.pop? = some (frame, t)) :
    Agrees t.frames h.pop.scopes := by
  cases hi : s.inner with
  | nil => simp [ScopeStack.pop?, hi] at hp
  | cons f rest =>
    simp only [ScopeStack.pop?, hi, Option.some.injEq, Prod.mk.injEq] at hp
    obtain ⟨-, rfl⟩ := hp
    cases hh : h.inner with
    | nil =>
      have hl := ha.length_eq
      simp [ScopeStack.frames, scopes, hi, hh] at hl
    | cons o os =>
      simp only [ScopeStack.frames, scopes, hi, hh, List.cons_append] at ha
      cases ha with
      | cons _ _ tail => simpa [ScopeStack.frames, scopes, ScopeHistory.pop, hh] using tail

/-- At the root neither side has a scope to close. -/
theorem Agrees.pop_root {s : ScopeStack} {h : ScopeHistory} (ha : Agrees s.frames h.scopes)
    (hp : s.pop? = none) : h.pop = h := by
  have hi : s.inner = [] := by
    cases hi : s.inner with
    | nil => rfl
    | cons f rest => simp [ScopeStack.pop?, hi] at hp
  have hl := ha.length_eq
  simp only [ScopeStack.frames, scopes, hi, List.length_append, List.length_cons,
    List.length_nil] at hl
  have hn : h.inner = [] := List.eq_nil_of_length_eq_zero (by omega)
  cases h
  simp_all [ScopeHistory.pop]

/-- A declaration reaches the innermost frame, or it changes nothing that can be seen: then an
open frame owns the name already, and it is not closed before the innermost one. -/
theorem Agrees.declare {s : ScopeStack} {h : ScopeHistory} (ha : Agrees s.frames h.scopes)
    (ht : s.Tidy) (name : String) : Agrees (s.declare name).frames (h.declare name).scopes := by
  rw [s.frames_eq, h.scopes_eq] at ha
  rw [h.scopes_declare]
  cases ha with
  | cons flag names tail =>
    by_cases hm : name ∈ s.localNames
    · rw [ScopeStack.declare_of_shadowed ((ht.isShadowed_iff name).mpr hm), s.frames_eq]
      refine .cons flag ?_ tail
      intro n
      have hv : name ∈ (s.top :: s.frames.tail).flatMap Frame.names := by
        rw [← s.frames_eq, ← s.mem_localNames]
        exact hm
      have hn := names n
      rw [names name] at hv
      simp only [List.flatMap_cons, List.mem_append, List.mem_cons] at hn hv ⊢
      rw [hn]
      constructor
      · rintro (ho | ho)
        · exact .inl (.inr ho)
        · exact .inr ho
      · rintro ((rfl | ho) | ho)
        · exact hv
        · exact .inl ho
        · exact .inr ho
    · rw [ScopeStack.frames_declare (ht.isShadowed_eq_false hm)]
      refine .cons flag ?_ tail
      intro n
      have hn := names n
      simp only [List.flatMap_cons, List.mem_append, List.mem_cons, List.not_mem_nil,
        or_false] at hn ⊢
      rw [or_right_comm, hn, or_comm, ← or_assoc]

def Traced (stage : Script.Stage) (h : ScopeHistory) : Prop :=
  stage.survey.scopes.Tidy ∧ Agrees stage.survey.scopes.frames h.scopes

theorem Traced.push {stage : Script.Stage} {h : ScopeHistory} (ht : Traced stage h)
    (marked : Bool) : Traced (stage.enter marked) (h.push marked) :=
  ⟨ht.1.push marked, ht.2.push marked⟩

theorem scopes_pop? {stage stage' : Script.Stage} {frame : Frame}
    (hp : stage.pop? = some (frame, stage')) :
    stage.survey.scopes.pop? = some (frame, stage'.survey.scopes) := by
  obtain ⟨⟨f, survey⟩, hs, he⟩ := Option.map_eq_some_iff.mp hp
  cases he
  obtain ⟨scopes, hf, rfl⟩ := Survey.pop?_eq_some hs
  exact hf

theorem pop?_eq_none {stage : Script.Stage} :
    stage.pop? = none ↔ stage.survey.scopes.pop? = none := by
  rw [← Survey.pop?_eq_none]
  simp [Script.Stage.pop?]

theorem Traced.pop {stage stage' : Script.Stage} {h : ScopeHistory} {frame : Frame}
    (ht : Traced stage h) (hp : stage.pop? = some (frame, stage')) : Traced stage' h.pop :=
  ⟨ht.1.pop (scopes_pop? hp), ht.2.pop (scopes_pop? hp)⟩

theorem Traced.pop_root {stage : Script.Stage} {h : ScopeHistory} (ht : Traced stage h)
    (hp : stage.pop? = none) : Traced stage h.pop := by
  rw [ht.2.pop_root (pop?_eq_none.mp hp)]
  exact ht

theorem Traced.leave {stage : Script.Stage} {h : ScopeHistory} (ht : Traced stage h)
    (error : String) : Traced (stage.leave error).2 h.pop := by
  unfold Script.Stage.leave
  split
  · rename_i hp
    exact ht.pop_root hp
  · rename_i hp
    have hc := ht.pop hp
    exact hc

mutual
theorem traced_runOne {stage : Script.Stage} {h : ScopeHistory} (ht : Traced stage h) :
    ∀ action : Action, Traced (Script.runOne action stage).2 (h.after action)
  | .push marked => ht.push marked
  | .pop => by
    simp only [Script.runOne, after]
    split
    · rename_i hp
      exact ht.pop_root hp
    · rename_i hp
      exact ht.pop hp
  | .declare name => by
    simp only [Script.runOne, after, Traced, Survey.scopes_declare]
    exact ⟨ht.1.declare name, ht.2.declare ht.1 name⟩
  | .shadowed name => ht
  | .refer name line => by
    simp only [Script.runOne, after, Traced, Survey.scopes_refer]
    exact ht
  | .block marked body error => by
    simp only [Script.runOne, after]
    exact (traced_runAll (ht.push marked) body).leave error

theorem traced_runAll {stage : Script.Stage} {h : ScopeHistory} (ht : Traced stage h) :
    ∀ actions : List Action, Traced (Script.runAll actions stage).2 (h.afterAll actions)
  | [] => ht
  | action :: actions => by
    simp only [Script.runAll, afterAll]
    exact traced_runAll (traced_runOne ht action) actions
end

theorem pop?_eq_none_iff_depth {s : ScopeStack} : s.pop? = none ↔ s.depth = 1 := by
  cases hi : s.inner <;> simp [ScopeStack.pop?, ScopeStack.depth, hi]

/-- After any script on new scopes, a name is hidden exactly when it was declared in a scope that
is still open, and only tests are met exactly when a scope that is still open was marked. No name
has two owners, the table counts each owned name once and holds no other, and the root stays: an
attempt to close it fails and changes nothing. -/
theorem scopes_agree_with_history (script : List Action) :
    let stage := (Script.runAll script {}).2
    let scopes := stage.survey.scopes
    let history := ScopeHistory.afterAll {} script
    (∀ name, scopes.isShadowed name = true ↔
      ∃ scope ∈ history.scopes, name ∈ scope.declared) ∧
    (scopes.isTestOnly = true ↔ ∃ scope ∈ history.scopes, scope.marked = true) ∧
    1 ≤ scopes.depth ∧ scopes.depth = history.scopes.length ∧
    (scopes.frames.flatMap Frame.names).Nodup ∧
    (scopes.owners.map (·.1)).Nodup ∧
    (∀ name count, (name, count) ∈ scopes.owners ↔
      count = 1 ∧ name ∈ scopes.frames.flatMap Frame.names) ∧
    (scopes.depth ≠ 1 → ∃ frame after, stage.pop? = some (frame, after) ∧
      Script.runOne .pop stage = ([⟨.pop, .frame frame, after.survey⟩], after)) ∧
    (scopes.depth = 1 →
      Script.runOne .pop stage = ([⟨.pop, .failed .rootScope, stage.survey⟩], stage)) := by
  intro stage scopes history
  obtain ⟨tidy, agrees⟩ : Traced stage history :=
    traced_runAll ⟨ScopeStack.tidy_empty, agrees_new⟩ script
  refine ⟨?_, ?_, ?_, ?_, ?_, ?_, ?_, ?_, ?_⟩
  · intro name
    rw [tidy.isShadowed_iff, scopes.mem_localNames, agrees.mem_names]
    exact List.mem_flatMap
  · rw [agrees.isTestOnly_eq]
    exact List.any_eq_true
  · exact Nat.le_add_left 1 _
  · rw [← agrees.length_eq]
    exact scopes.length_frames.symm
  · exact tidy.nodup_frames
  · rw [tidy.owners_eq, List.map_map]
    simpa [Function.comp_def] using tidy.nodup
  · intro name count
    rw [tidy.owners_eq, ← scopes.mem_localNames]
    constructor
    · intro hm
      obtain ⟨n, hn, he⟩ := List.mem_map.mp hm
      cases he
      exact ⟨rfl, hn⟩
    · rintro ⟨rfl, hn⟩
      exact List.mem_map.mpr ⟨name, hn, rfl⟩
  · intro hd
    cases hp : stage.pop? with
    | none => exact absurd (pop?_eq_none_iff_depth.mp (pop?_eq_none.mp hp)) hd
    | some popped =>
      obtain ⟨frame, after⟩ := popped
      exact ⟨frame, after, rfl, by simp [Script.runOne, hp]⟩
  · intro hd
    have hp := pop?_eq_none.mpr (pop?_eq_none_iff_depth.mpr hd)
    simp [Script.runOne, hp]

end ScopeHistory
end CrateUsage
