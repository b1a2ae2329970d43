import CrateUsage.Proofs.Meaning

namespace CrateUsage

inductive Mention where
  | refers (name : String)
  | declares (name : String)

namespace Mention

/-- A reference, unless to a path keyword: then it is none. -/
def referring (name : String) : List Mention := if isPathKeyword name then [] else [.refers name]

def declaring (name : String) : List Mention := if isPathKeyword name then [] else [.declares name]

end Mention

inductive Outline.Mentions : Outline → List Mention → Prop
  | nil : Mentions [] []
  | refer {o : Outline} {ms : List Mention} (name : String) (line : Int) (rest : Mentions o ms) :
      Mentions (.refer name line :: o) (Mention.referring name ++ ms)
  | declare {o : Outline} {ms : List Mention} (name : String) (rest : Mentions o ms) :
      Mentions (.declare name :: o) (Mention.declaring name ++ ms)

namespace Outline.Mentions

theorem append {a b : Outline} {as bs : List Mention} (ha : Mentions a as) (hb : Mentions b bs) :
    Mentions (a ++ b) (as ++ bs) := by
  induction ha with
  | nil => exact hb
  | refer name line _ ih =>
    rw [List.append_assoc]
    exact .refer name line ih
  | declare name _ ih =>
    rw [List.append_assoc]
    exact .declare name ih

theorem ofRefer (name : String) (line : Int) :
    Mentions [.refer name line] (Mention.referring name) :=
  List.append_nil (Mention.referring name) ▸ .refer name line .nil

theorem ofDeclare (name : String) : Mentions [.declare name] (Mention.declaring name) :=
  List.append_nil (Mention.declaring name) ▸ .declare name .nil

end Outline.Mentions

def Ledger.withoutLines (l : Ledger) : Ledger :=
  { l with records := l.records.map fun r => { r with line := none } }

theorem Ledger.withoutLines_enter (l : Ledger) (r : Record) :
    (l.enter r).withoutLines = l.withoutLines.enter { r with line := none } := by
  have hh : l.withoutLines.holds r.build r.name = l.holds r.build r.name := by
    cases hb : r.build <;> rfl
  unfold Ledger.enter
  rw [hh]
  cases l.holds r.build r.name with
  | true => rfl
  | false => cases hb : r.build <;> simp [withoutLines, hb]

theorem Ledger.eq_of_withoutLines {l k : Ledger} (h : l.withoutLines = k.withoutLines) :
    l.normal = k.normal ∧ l.testOnly = k.testOnly ∧
      l.records.map (fun r => (r.name, r.build)) = k.records.map fun r => (r.name, r.build) := by
  have hn := congrArg Ledger.normal h
  have ht := congrArg Ledger.testOnly h
  have hr := congrArg (fun l : Ledger => l.records.map fun r => (r.name, r.build)) h
  refine ⟨hn, ht, ?_⟩
  simpa only [withoutLines, List.map_map, Function.comp_def] using hr

namespace Survey

/-- Two surveys that found the same crates in the same order, on whatever lines, and that go on
alike: the same names are hidden but for path keywords, which are no crates anyway. -/
structure Matches (s t : Survey) : Prop where
  ledger : s.ledger.withoutLines = t.ledger.withoutLines
  build : s.build = t.build
  hidden : ∀ name, isPathKeyword name = false →
    s.scopes.isShadowed name = t.scopes.isShadowed name

variable {s t u : Survey}

theorem Matches.refl (s : Survey) : s.Matches s := ⟨rfl, rfl, fun _ _ => rfl⟩

theorem Matches.trans (h : s.Matches t) (g : t.Matches u) : s.Matches u :=
  ⟨h.ledger.trans g.ledger, h.build.trans g.build,
    fun name hn => (h.hidden name hn).trans (g.hidden name hn)⟩

theorem Matches.symm (h : s.Matches t) : t.Matches s :=
  ⟨h.ledger.symm, h.build.symm, fun name hn => (h.hidden name hn).symm⟩

theorem build_refer (s : Survey) (name : String) (line : Option Int) :
    (s.refer name line).build = s.build := by
  rw [Survey.build, scopes_refer, Survey.build]

theorem build_declare (s : Survey) (name : String) : (s.declare name).build = s.build := by
  rw [Survey.build, scopes_declare, (s.scopes.grows_declare name).isTestOnly_eq, Survey.build]

theorem Matches.refer (h : s.Matches t) (name : String) (line line' : Option Int) :
    (s.refer name line).Matches (t.refer name line') := by
  refine ⟨?_, ?_, ?_⟩
  · rw [ledger_refer, ledger_refer]
    cases hk : isPathKeyword name with
    | true => exact h.ledger
    | false =>
      rw [h.hidden name hk]
      cases t.scopes.isShadowed name with
      | true => exact h.ledger
      | false =>
        simp only [Bool.or_self, Bool.false_eq_true, if_false, Ledger.withoutLines_enter]
        rw [h.ledger, h.build]
  · rw [build_refer, build_refer, h.build]
  · intro n hn
    rw [scopes_refer, scopes_refer, h.hidden n hn]

theorem Matches.declare (h : s.Matches t) (name : String) :
    (s.declare name).Matches (t.declare name) := by
  refine ⟨?_, ?_, ?_⟩
  · rw [ledger_declare, ledger_declare, h.ledger]
  · rw [build_declare, build_declare, h.build]
  · intro n hn
    rw [scopes_declare, scopes_declare, ScopeStack.isShadowed_declare,
      ScopeStack.isShadowed_declare, h.hidden n hn]

theorem refer_keyword {name : String} (h : isPathKeyword name = true) (s : Survey)
    (line : Option Int) : s.refer name line = s := by
  simp [Survey.refer, h]

theorem matches_declare_keyword {name : String} (h : isPathKeyword name = true) (s : Survey) :
    (s.declare name).Matches s := by
  refine ⟨by rw [ledger_declare], s.build_declare name, ?_⟩
  intro n hn
  have hne : n ≠ name := by
    rintro rfl
    rw [h] at hn
    cases hn
  rw [scopes_declare, ScopeStack.isShadowed_declare]
  simp [hne]

def note (s : Survey) : Mention → Survey
  | .refers name => s.refer name none
  | .declares name => s.declare name

def noteAll (s : Survey) (ms : List Mention) : Survey := ms.foldl note s

theorem noteAll_append (s : Survey) (as bs : List Mention) :
    s.noteAll (as ++ bs) = (s.noteAll as).noteAll bs :=
  List.foldl_append

theorem Matches.note (h : s.Matches t) : ∀ m : Mention, (s.note m).Matches (t.note m)
  | .refers name => h.refer name none none
  | .declares name => h.declare name

theorem Matches.noteAll (h : s.Matches t) (ms : List Mention) :
    (s.noteAll ms).Matches (t.noteAll ms) := by
  induction ms generalizing s t with
  | nil => exact h
  | cons m ms ih => exact ih (h.note m)

/-- By induction on the outline: only the names matter that it mentions. -/
theorem matches_runAll {o : Outline} {ms : List Mention} (ho : o.Mentions ms)
    (h : s.Matches t) : ∃ u, Step.runAll o s = (none, u) ∧ u.Matches (t.noteAll ms) := by
  induction ho generalizing s t with
  | nil => exact ⟨s, rfl, h⟩
  | refer name line _ ih =>
    rw [noteAll_append]
    refine ih ?_
    cases hk : isPathKeyword name with
    | true =>
      rw [Mention.referring, hk, refer_keyword hk]
      exact h
    | false =>
      rw [Mention.referring, hk]
      exact h.refer name _ none
  | declare name _ ih =>
    rw [noteAll_append]
    refine ih ?_
    cases hk : isPathKeyword name with
    | true =>
      rw [Mention.declaring, hk]
      exact (matches_declare_keyword hk s).trans h
    | false =>
      rw [Mention.declaring, hk]
      exact h.declare name

def Knows (s : Survey) (name : String) : Prop :=
  s.scopes.isShadowed name = true ∨ s.ledger.holds s.build name = true

theorem knows_refer {name : String} (h : isPathKeyword name = false) (s : Survey)
    (line : Option Int) : (s.refer name line).Knows name := by
  unfold Knows
  rw [scopes_refer, build_refer, ledger_refer, h]
  cases s.scopes.isShadowed name with
  | true => exact .inl rfl
  | false =>
    refine .inr ?_
    simp only [Bool.or_self, Bool.false_eq_true, if_false, Ledger.holds, Ledger.names_enter]
    split
    · simp
    · rename_i hn
      simpa [Ledger.holds] using hn

theorem Knows.note {name : String} (h : s.Knows name) (m : Mention) : (s.note m).Knows name := by
  cases m with
  | refers n =>
    rcases h with h | h
    · exact .inl (by rw [Survey.note, scopes_refer, h])
    · refine .inr ?_
      rw [Survey.note, build_refer, ledger_refer]
      split
      · exact h
      · rw [Ledger.holds, List.contains_iff_mem] at h ⊢
        rw [Ledger.names_enter]
        split
        · exact List.mem_append_left _ h
        · exact h
  | declares n =>
    rcases h with h | h
    · refine .inl ?_
      rw [Survey.note, scopes_declare, ScopeStack.isShadowed_declare, h, Bool.or_true]
    · exact .inr (by rw [Survey.note, build_declare, ledger_declare, h])

theorem Knows.noteAll {name : String} (h : s.Knows name) (ms : List Mention) :
    (s.noteAll ms).Knows name := by
  induction ms generalizing s with
  | nil => exact h
  | cons m ms ih => exact ih (h.note m)

theorem Knows.matches_refer {name : String} (h : s.Knows name) (line : Option Int) :
    (s.refer name line).Matches s := by
  refine ⟨?_, s.build_refer name line, fun n _ => by rw [scopes_refer]⟩
  rw [ledger_refer]
  rcases h with h | h
  · rw [h, Bool.or_true]
    rfl
  · split
    · rfl
    · rw [Ledger.enter, h]
      rfl

/-- What is said again before each of several parts, once it is known, need not be said. -/
theorem Knows.matches_flatMap {α : Type} {name : String} (h : s.Knows name) (as : List α)
    (say : α → List Mention) :
    (s.noteAll (as.flatMap say)).Matches
      (s.noteAll (as.flatMap fun a => .refers name :: say a)) := by
  induction as generalizing s with
  | nil => exact .refl s
  | cons a as ih =>
    rw [List.flatMap_cons, List.flatMap_cons, noteAll_append, List.cons_append]
    have hone := (h.matches_refer none).symm.noteAll
      (say a ++ as.flatMap fun a => .refers name :: say a)
    rw [noteAll_append] at hone
    exact (ih (h.noteAll (say a))).trans hone

/-- A reference that comes before several parts may come before each of them. -/
theorem matches_referring {α : Type} (name : String) {as : List α} (ha : as ≠ [])
    (say : α → List Mention) (s : Survey) :
    (s.noteAll (Mention.referring name ++ as.flatMap say)).Matches
      (s.noteAll (as.flatMap fun a => Mention.referring name ++ say a)) := by
  cases hk : isPathKeyword name with
  | true =>
    simp only [Mention.referring, hk, if_true, List.nil_append]
    exact .refl _
  | false =>
    cases as with
    | nil => exact absurd rfl ha
    | cons a as =>
      simp only [Mention.referring, hk, Bool.false_eq_true, if_false, List.flatMap_cons]
      have hknown : ((s.refer name none).noteAll (say a)).Knows name :=
        (knows_refer hk s none).noteAll (say a)
      have h := hknown.matches_flatMap as say
      rw [← noteAll_append, ← noteAll_append] at h
      exact h

end Survey
end CrateUsage
