import CrateUsage.Proofs.RecordHistory
import CrateUsage.Proofs.Unwinding

namespace CrateUsage

/-- A part of a program over the scopes and the ledger. An error ends every body around it, up to
the attempt that it happens in. -/
inductive Instruction where
  | push (marked : Bool)
  | pop
  | declare (name : String)
  /-- Goes on one way if the name is hidden and the other way if it is not. -/
  | ask (name : String) (yes no : List Instruction)
  | refer (name : String) (line : Option Int)
  | raise (error : String)
  | block (marked : Bool) (body : List Instruction)
  | attempt (body : List Instruction)

namespace Instruction

def leave : Option Script.Failure × Survey → Option Script.Failure × Survey
  | (why, s) =>
    match s.pop? with
    | some (_, s) => (why, s)
    | none => (some .rootScope, s)

mutual
def run : Instruction → Survey → Option Script.Failure × Survey
  | .push marked, s => (none, s.push marked)
  | .pop, s =>
    match s.pop? with
    | some (_, s) => (none, s)
    | none => (some .rootScope, s)
  | .declare name, s => (none, s.declare name)
  | .ask name yes no, s => if s.scopes.isShadowed name then runAll yes s else runAll no s
  | .refer name line, s => (none, s.refer name line)
  | .raise error, s => (some (.raised error), s)
  | .block marked body, s => leave (runAll body (s.push marked))
  | .attempt body, s => (none, (runAll body s).2)

def runAll : List Instruction → Survey → Option Script.Failure × Survey
  | [], s => (none, s)
  | i :: is, s =>
    match i.run s with
    | (none, s) => runAll is s
    | stopped => stopped
end

mutual
/-- How many scopes that a body opened itself are open after an instruction of it, given how many
are open before; nothing if it closes a scope that it did not open. The body of a block is counted
on its own, and must leave none open. -/
def ownOpen : Instruction → Survey → Nat → Option Nat
  | .push _, _, k => some (k + 1)
  | .pop, _, k => if k = 0 then none else some (k - 1)
  | .declare _, _, k | .refer _ _, _, k | .raise _, _, k => some k
  | .ask name yes no, s, k =>
    if s.scopes.isShadowed name then ownOpenAll yes s k else ownOpenAll no s k
  | .block marked body, s, k =>
    if ownOpenAll body (s.push marked) 0 = some 0 then some k else none
  | .attempt body, s, k => ownOpenAll body s k

def ownOpenAll : List Instruction → Survey → Nat → Option Nat
  | [], _, k => some k
  | i :: is, s, k =>
    match i.ownOpen s k with
    | none => none
    | some k =>
      match i.run s with
      | (none, s) => ownOpenAll is s k
      | (some _, _) => some k
end

/-- A body closes only scopes that it opened itself, and has closed all of them by the moment it
ends or fails. -/
def Balances (body : List Instruction) (s : Survey) : Prop := ownOpenAll body s 0 = some 0

instance (body : List Instruction) (s : Survey) : Decidable (Balances body s) :=
  inferInstanceAs (Decidable (_ = _))

inductive Comes (found : Instruction) (before : Survey) : List Instruction → Survey → Prop
  | here (rest : List Instruction) : Comes found before (found :: rest) before
  | later {i : Instruction} {rest : List Instruction} {s t : Survey} (hr : i.run s = (none, t))
      (h : Comes found before rest t) : Comes found before (i :: rest) s
  | inBlock {marked : Bool} {body rest : List Instruction} {s : Survey}
      (h : Comes found before body (s.push marked)) :
      Comes found before (.block marked body :: rest) s
  | inAttempt {body rest : List Instruction} {s : Survey} (h : Comes found before body s) :
      Comes found before (.attempt body :: rest) s
  | inYes {name : String} {yes no rest : List Instruction} {s : Survey}
      (hs : s.scopes.isShadowed name = true) (h : Comes found before yes s) :
      Comes found before (.ask name yes no :: rest) s
  | inNo {name : String} {yes no rest : List Instruction} {s : Survey}
      (hs : s.scopes.isShadowed name = false) (h : Comes found before no s) :
      Comes found before (.ask name yes no :: rest) s

structure Keeps (s t : Survey) : Prop where
  tidy : s.scopes.Tidy → t.scopes.Tidy
  hints : t.hints = s.hints
  ledger : s.ledger.Grows t.ledger

theorem Keeps.refl (s : Survey) : Keeps s s := ⟨id, rfl, .refl _⟩

theorem Keeps.trans {s t u : Survey} (h : Keeps s t) (g : Keeps t u) : Keeps s u :=
  ⟨g.tidy ∘ h.tidy, g.hints.trans h.hints, h.ledger.trans g.ledger⟩

theorem keeps_push (s : Survey) (marked : Bool) : Keeps s (s.push marked) :=
  ⟨fun h => h.push marked, rfl, .refl _⟩

theorem keeps_pop {s t : Survey} {frame : Frame} (h : s.pop? = some (frame, t)) : Keeps s t := by
  obtain ⟨scopes, hp, rfl⟩ := Survey.pop?_eq_some h
  exact ⟨fun ht => ht.pop hp, rfl, .refl _⟩

theorem keeps_declare (s : Survey) (name : String) : Keeps s (s.declare name) where
  tidy h := by
    rw [Survey.scopes_declare]
    exact h.declare name
  hints := s.hints_declare name
  ledger := by
    rw [Survey.ledger_declare]
    exact .refl _

theorem keeps_refer (s : Survey) (name : String) (line : Option Int) :
    Keeps s (s.refer name line) where
  tidy h := by
    rw [Survey.scopes_refer]
    exact h
  hints := s.hints_refer name line
  ledger := s.grows_refer name line

theorem keeps_leave (why : Option Script.Failure) (s : Survey) : Keeps s (leave (why, s)).2 := by
  simp only [leave]
  split
  · rename_i hp
    exact keeps_pop hp
  · exact .refl s

mutual
theorem keeps_run (s : Survey) : ∀ i : Instruction, Keeps s (i.run s).2
  | .push marked => keeps_push s marked
  | .pop => by
    simp only [run]
    split
    · rename_i hp
      exact keeps_pop hp
    · exact .refl s
  | .declare name => keeps_declare s name
  | .ask name yes no => by
    simp only [run]
    split
    · exact keeps_runAll s yes
    · exact keeps_runAll s no
  | .refer name line => keeps_refer s name line
  | .raise _ => .refl s
  | .block marked body =>
    ((keeps_push s marked).trans (keeps_runAll (s.push marked) body)).trans (keeps_leave _ _)
  | .attempt body => keeps_runAll s body

theorem keeps_runAll (s : Survey) : ∀ is : List Instruction, Keeps s (runAll is s).2
  | [] => .refl s
  | i :: is => by
    have hi := keeps_run s i
    simp only [runAll]
    split
    · rename_i t hr
      rw [hr] at hi
      exact hi.trans (keeps_runAll t is)
    · exact hi
end

theorem Comes.keeps {found : Instruction} {before s : Survey} {program : List Instruction}
    (h : Comes found before program s) : Keeps s before := by
  induction h with
  | here rest => exact .refl before
  | @later i rest s t hr _ ih =>
    have hi := keeps_run s i
    rw [hr] at hi
    exact hi.trans ih
  | @inBlock marked body rest s _ ih => exact (keeps_push s marked).trans ih
  | inAttempt _ ih => exact ih
  | inYes _ _ ih => exact ih
  | inNo _ _ ih => exact ih

structure Stands (base : ScopeStack) (own : Nat) (s : ScopeStack) : Prop where
  tidy : s.Tidy
  deep : own ≤ s.inner.length
  grows : base.Grows { s with inner := s.inner.drop own }

namespace Stands

variable {base s : ScopeStack} {own : Nat}

theorem ofTidy (h : s.Tidy) : Stands s 0 s := ⟨h, Nat.zero_le _, .of_frames rfl rfl⟩

theorem push (h : Stands base own s) (marked : Bool) : Stands base (own + 1) (s.push marked) :=
  ⟨h.tidy.push marked, Nat.succ_le_succ h.deep, h.grows⟩

theorem pop (h : Stands base (own + 1) s) :
    ∃ frame t, s.pop? = some (frame, t) ∧ Stands base own t := by
  have hd := h.deep
  have hg := h.grows
  cases hi : s.inner with
  | nil => simp [hi] at hd
  | cons frame rest =>
    have hp : s.pop? = some (frame, { s with
        inner := rest,
        owners := frame.names.foldl (fun o n => ScopeStack.release n o) s.owners }) := by
      simp only [ScopeStack.pop?, hi]
    rw [hi] at hd hg
    exact ⟨frame, _, hp, h.tidy.pop hp, Nat.le_of_succ_le_succ hd, hg.trans (.of_frames rfl rfl)⟩

/-- A declaration reaches the base only where no scope stands on it. -/
theorem declare (h : Stands base own s) (name : String) : Stands base own (s.declare name) := by
  cases hs : s.isShadowed name with
  | true =>
    rw [ScopeStack.declare_of_shadowed hs]
    exact h
  | false =>
    have hg := s.grows_declare name
    have hd : (s.declare name).inner.length = s.inner.length := Nat.succ.inj hg.depth_eq
    refine ⟨h.tidy.declare name, hd ▸ h.deep, ?_⟩
    cases own with
    | zero => exact (h.grows.trans hg).trans (.of_frames rfl rfl)
    | succ own =>
      have hdeep := h.deep
      refine h.grows.trans (.of_frames ?_ ?_)
      all_goals
        rw [ScopeStack.declare, hs]
        cases hi : s.inner with
        | nil => simp [hi] at hdeep
        | cons frame rest => simp [ScopeStack.mapTop, hi]

/-- Closing the scope of a block restores what was there before the block. -/
theorem leave {s t : Survey} {marked : Bool} (hs : s.scopes.Tidy)
    (h : Stands (s.scopes.push marked) 0 t.scopes) (why : Option Script.Failure) :
    Instruction.leave (why, t) = (why, { t with scopes := s.scopes }) := by
  obtain ⟨frame, u, hp, hi, hr⟩ := h.grows.pop
  have hu : u = s.scopes := (h.tidy.pop hp).ext hs hi hr
  have hpop : t.pop? = some (frame, { t with scopes := u }) :=
    Option.map_eq_some_iff.mpr ⟨(frame, u), hp, rfl⟩
  simp only [Instruction.leave, hpop, hu]

end Stands

mutual
/-- By induction on the program: the count of own scopes is right at every moment, and none of the
scopes below is closed. -/
theorem stands_run : ∀ (i : Instruction) {base : ScopeStack} {s : Survey} {k m : Nat},
    Stands base k s.scopes → i.ownOpen s k = some m →
      Stands base m (i.run s).2.scopes ∧ (i.run s).1 ≠ some .rootScope
  | .push marked, base, s, k, m, h, ho => by
    cases ho
    exact ⟨h.push marked, nofun⟩
  | .pop, base, s, k, m, h, ho => by
    cases k with
    | zero => cases ho
    | succ k =>
      cases ho
      obtain ⟨frame, t, hp, ht⟩ := h.pop
      have hpop : s.pop? = some (frame, { s with scopes := t }) :=
        Option.map_eq_some_iff.mpr ⟨(frame, t), hp, rfl⟩
      simp only [run, hpop]
      exact ⟨ht, nofun⟩
  | .declare name, base, s, k, m, h, ho => by
    cases ho
    simp only [run, Survey.scopes_declare]
    exact ⟨h.declare name, nofun⟩
  | .ask name yes no, base, s, k, m, h, ho => by
    simp only [ownOpen, run] at ho ⊢
    split at ho
    · rename_i hs
      rw [if_pos hs]
      exact stands_runAll yes h ho
    · rename_i hs
      rw [if_neg hs]
      exact stands_runAll no h ho
  | .refer name line, base, s, k, m, h, ho => by
    cases ho
    simp only [run, Survey.scopes_refer]
    exact ⟨h, nofun⟩
  | .raise error, base, s, k, m, h, ho => by
    cases ho
    exact ⟨h, nofun⟩
  | .block marked body, base, s, k, m, h, ho => by
    simp only [ownOpen] at ho
    split at ho
    · rename_i hbody
      cases ho
      obtain ⟨hb, hroot⟩ := stands_runAll body (.ofTidy (h.tidy.push marked)) hbody
      simp only [run]
      rw [Stands.leave h.tidy hb]
      exact ⟨h, hroot⟩
    · cases ho
  | .attempt body, base, s, k, m, h, ho => ⟨(stands_runAll body h ho).1, nofun⟩

theorem stands_runAll : ∀ (is : List Instruction) {base : ScopeStack} {s : Survey} {k m : Nat},
    Stands base k s.scopes → ownOpenAll is s k = some m →
      Stands base m (runAll is s).2.scopes ∧ (runAll is s).1 ≠ some .rootScope
  | [], base, s, k, m, h, ho => by
    cases ho
    exact ⟨h, nofun⟩
  | i :: is, base, s, k, m, h, ho => by
    simp only [ownOpenAll] at ho
    split at ho
    · cases ho
    · rename_i own hi
      obtain ⟨ht, hroot⟩ := stands_run i h hi
      simp only [runAll]
      split at ho
      · rename_i t hr
        rw [hr] at ht ⊢
        exact stands_runAll is ht ho
      · rename_i why t hr
        cases ho
        rw [hr] at ht hroot ⊢
        exact ⟨ht, hroot⟩
end

theorem runAll_singleton (i : Instruction) (s : Survey) : runAll [i] s = i.run s := by
  simp only [runAll]
  split
  · rename_i t hr
    exact hr.symm
  · rfl

theorem runAll_append (first second : List Instruction) (s : Survey) :
    runAll (first ++ second) s =
      match runAll first s with
      | (none, s) => runAll second s
      | stopped => stopped := by
  induction first generalizing s with
  | nil => rfl
  | cons i is ih =>
    simp only [List.cons_append, runAll]
    cases i.run s with
    | mk why t =>
      cases why with
      | none => exact ih t
      | some why => rfl

end Instruction

namespace Script

def raising (error : String) : List Instruction := if error = "" then [] else [.raise error]

mutual
def instruction : Action → Instruction
  | .push marked => .push marked
  | .pop => .attempt [.pop]
  | .declare name => .declare name
  | .shadowed name => .ask name [] []
  | .refer name line => .refer name line
  | .block marked body error => .attempt [.block marked (instructions body ++ raising error)]

def instructions : List Action → List Instruction
  | [] => []
  | action :: actions => instruction action :: instructions actions
end

theorem snd_leave (ended : Option Failure × Survey) :
    (Instruction.leave ended).2 = popped ended.2 := by
  obtain ⟨why, s⟩ := ended
  simp only [Instruction.leave, popped]
  cases s.pop? <;> rfl

theorem snd_runAll_raising (error : String) (s : Survey) :
    (Instruction.runAll (raising error) s).2 = s := by
  unfold raising
  split <;> rfl

mutual
theorem run_instruction (stage : Stage) : ∀ action : Action,
    (instruction action).run stage.survey = (none, (runOne action stage).2.survey)
  | .push _ | .declare _ | .refer _ _ => rfl
  | .pop => by
    rw [survey_pop]
    simp only [instruction, Instruction.run, Instruction.runAll, popped]
    cases stage.survey.pop? <;> rfl
  | .shadowed name => by
    simp only [instruction, Instruction.run, Instruction.runAll, ite_self]
    rfl
  | .block marked body error => by
    have hbody := run_instructions (stage.enter marked) body
    have hopen : (stage.enter marked).survey = stage.survey.push marked := rfl
    rw [hopen] at hbody
    simp only [instruction, Instruction.run, Instruction.runAll_singleton, runOne, survey_leave]
    rw [snd_leave, Instruction.runAll_append, hbody, snd_runAll_raising]

theorem run_instructions (stage : Stage) : ∀ actions : List Action,
    Instruction.runAll (instructions actions) stage.survey =
      (none, (runAll actions stage).2.survey)
  | [] => rfl
  | action :: actions => by
    simp only [instructions, Instruction.runAll, run_instruction stage action]
    exact run_instructions _ actions
end

end Script

namespace Instruction

/-- A block anywhere in a program leaves what it finds, whether its body ends or fails: the error
passes through, and only the ledger and the log may have grown. Scripts are such programs. -/
theorem block_restores {program body : List Instruction} {marked : Bool} {before : Survey}
    (hc : Comes (.block marked body) before program {})
    (hb : Balances body (before.push marked)) :
    let inside := runAll body (before.push marked)
    (Instruction.block marked body).run before =
        (inside.1, { before with ledger := inside.2.ledger, log := inside.2.log }) ∧
      inside.1 ≠ some .rootScope ∧ before.ledger.Grows inside.2.ledger ∧
      ∀ (script : List Action) (stage : Script.Stage),
        runAll (Script.instructions script) stage.survey =
          (none, (Script.runAll script stage).2.survey) := by
  intro inside
  have htidy : before.scopes.Tidy := hc.keeps.tidy ScopeStack.tidy_empty
  have hkeeps : Keeps (before.push marked) inside.2 := keeps_runAll _ body
  obtain ⟨hstands, hroot⟩ := stands_runAll body (.ofTidy (htidy.push marked)) hb
  refine ⟨?_, hroot, hkeeps.ledger, fun script stage => Script.run_instructions stage script⟩
  calc (Instruction.block marked body).run before
    _ = leave (inside.1, inside.2) := rfl
    _ = (inside.1, { inside.2 with scopes := before.scopes }) := Stands.leave htidy hstands _
    _ = (inside.1, { before with ledger := inside.2.ledger, log := inside.2.log }) := by
      rw [← show inside.2.hints = before.hints from hkeeps.hints]

/-- The body opens a scope of its own, catches the error of one block and passes on that of
another, and tests find a crate in it whose name was free before. -/
theorem block_restores_after_inner_errors :
    let body : List Instruction :=
      [.push false, .declare "rand", .attempt [.block false [.declare "log", .raise "first"]],
        .ask "rand" [.pop] [], .refer "log" (some 2),
        .block true [.declare "rand", .refer "serde" (some 3), .raise "second"], .refer "io" none]
    let program : List Instruction :=
      [.declare "io", .refer "serde" (some 1), .push true, .pop, .block false body]
    let before := (runAll (program.take 4) {}).2
    Comes (.block false body) before program {} ∧ Balances body (before.push false) ∧
      ((Instruction.block false body).run before).1 = some (.raised "second") ∧
      ((Instruction.block false body).run before).2.scopes = before.scopes ∧
      ((Instruction.block false body).run before).2.ledger.testOnly = ["serde"] := by
  intro body program before
  have hc : Comes (.block false body) before program {} :=
    .later rfl (.later rfl (.later rfl (.later rfl (.here []))))
  have hb : Balances body (before.push false) := by decide +kernel
  obtain ⟨hrun, -⟩ := block_restores hc hb
  refine ⟨hc, hb, ?_, ?_, ?_⟩ <;> rw [hrun]
  · decide +kernel
  · decide +kernel

end Instruction
end CrateUsage
