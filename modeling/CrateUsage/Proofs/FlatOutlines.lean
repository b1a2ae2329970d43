import CrateUsage.Proofs.LexicalReading

namespace CrateUsage

def Step.isMention : Step → Bool
  | .refer _ _ | .declare _ => true
  | _ => false

namespace Outline

/-- An outline that opens no scope and that no missing text stops. -/
def IsFlat (o : Outline) : Prop := ∀ step ∈ o, step.isMention = true

theorem isFlat_nil : IsFlat [] := fun _ h => by cases h

theorem IsFlat.append {a b : Outline} (ha : IsFlat a) (hb : IsFlat b) : IsFlat (a ++ b) := by
  intro step h
  rcases List.mem_append.mp h with h | h
  · exact ha step h
  · exact hb step h

theorem isFlat_elim {n : Option Node} {say : Node → Outline}
    (h : ∀ m, n = some m → IsFlat (say m)) : IsFlat (n.elim [] say) := by
  cases n with
  | none => exact isFlat_nil
  | some m => exact h m rfl

theorem isFlat_readingOf {n : Option Node} {say : String → Step}
    (hn : ∀ m, n = some m → m.Legible) (hs : ∀ text, (say text).isMention = true) :
    IsFlat (readingOf n say) := by
  cases n with
  | none => exact isFlat_nil
  | some n =>
    intro step h
    simp only [readingOf, reading, (hn n rfl).read_eq, List.mem_singleton] at h
    rw [h]
    exact hs _

theorem isFlat_declaring {n : Option Node} (hn : ∀ m, n = some m → m.Legible) :
    IsFlat (declaring n) :=
  isFlat_readingOf hn fun _ => rfl

theorem isFlat_referring {segment : Option Node} (at_ : Node)
    (hn : ∀ m, segment = some m → m.Legible) : IsFlat (referring segment at_) :=
  isFlat_readingOf hn fun _ => rfl

theorem isFlat_referringFirst {path : Option Node} (h : ∀ m, path = some m → m.Legible) :
    IsFlat (referringFirst path) := by
  cases path with
  | none => exact isFlat_nil
  | some path => exact isFlat_referring path fun _ hm => (h path rfl).firstSegment? hm

theorem isFlat_useRoot {tree : Node} (h : tree.Legible) : IsFlat (useRoot tree) := by
  rw [Lexical.useRoot_eq_referringFirst]
  exact isFlat_referringFirst fun path hp => Lexical.legible_usePath? h hp

theorem isFlat_pathHead {path : Node} (h : path.Legible) : IsFlat (pathHead path.segments) := by
  unfold pathHead
  split
  · rename_i first _ _ hs
    refine isFlat_referring first fun m hm => h.mem (Node.mem_preorder_of_segments path ?_)
    rw [hs, Option.some.inj hm]
    exact List.mem_cons_self
  · exact isFlat_nil

theorem isFlat_declaringLast {path : Node} (h : path.Legible) : IsFlat (declaringLast path) := by
  unfold declaringLast
  split
  · exact isFlat_nil
  · rename_i segment hs
    rw [Node.Legible.read_eq (h.lastSegment? hs)]
    dsimp only
    split
    · exact isFlat_nil
    · intro step hm
      rw [List.mem_singleton.mp hm]
      rfl

theorem isFlat_declaringGroup {path : Node} (items : Node) (h : path.Legible) :
    IsFlat (declaringGroup path items) := by
  unfold declaringGroup
  split
  · exact isFlat_declaring fun m hm => h.lastSegment? hm
  · exact isFlat_nil

mutual
theorem isFlat_useNames : ∀ n : Node, n.Legible → IsFlat (useNames n)
  | .mk l cs, h => by
    have hc : ∀ c ∈ cs, c.Legible := fun c hc => h.child hc
    unfold useNames
    split
    · exact isFlat_declaring fun m hm => Option.some.inj hm ▸ h
    · exact isFlat_declaringLast h
    · refine .append ?_ (isFlat_declaring fun m hm => h.child? hm)
      split
      · rename_i path hp
        exact isFlat_referring path fun m hm => (h.child? hp).lastSegment? hm
      · exact isFlat_nil
    · split
      · rename_i path items hp hi
        exact (isFlat_declaringGroup items (h.child? hp)).append (isFlat_useNamesAt "list" cs hc)
      · exact isFlat_useNamesAt "list" cs hc
      · exact isFlat_nil
    · exact isFlat_useNamesOf cs hc
    · exact isFlat_nil

theorem isFlat_useNamesOf : ∀ ns : List Node, (∀ n ∈ ns, n.Legible) → IsFlat (useNamesOf ns)
  | [], _ => isFlat_nil
  | n :: ns, h => by
    unfold useNamesOf
    refine .append ?_ (isFlat_useNamesOf ns fun m hm => h m (List.mem_cons_of_mem _ hm))
    split
    · exact isFlat_useNames n (h n List.mem_cons_self)
    · exact isFlat_nil

theorem isFlat_useNamesAt (field : String) : ∀ ns : List Node, (∀ n ∈ ns, n.Legible) →
    IsFlat (useNamesAt field ns)
  | [], _ => isFlat_nil
  | n :: ns, h => by
    unfold useNamesAt
    split
    · exact isFlat_useNames n (h n List.mem_cons_self)
    · exact isFlat_useNamesAt field ns fun m hm => h m (List.mem_cons_of_mem _ hm)
end

end Outline

namespace Survey

/-- What is local behind an outline without scopes was local before it or is declared in it. -/
theorem isShadowed_runAll {o : Outline} (ho : o.IsFlat) (s : Survey) :
    ∃ t, Step.runAll o s = (none, t) ∧ ∀ name, t.scopes.isShadowed name = true ↔
      s.scopes.isShadowed name = true ∨ .declare name ∈ o := by
  induction o generalizing s with
  | nil => exact ⟨s, rfl, fun name => by simp⟩
  | cons step o ih =>
    have hrest : Outline.IsFlat o := fun q hq => ho q (List.mem_cons_of_mem _ hq)
    have hstep := ho step List.mem_cons_self
    cases step with
    | refer text line =>
      obtain ⟨t, ht, hnames⟩ := ih hrest (s.refer text (some line))
      refine ⟨t, ht, fun name => ?_⟩
      rw [hnames, scopes_refer]
      simp
    | declare text =>
      obtain ⟨t, ht, hnames⟩ := ih hrest (s.declare text)
      refine ⟨t, ht, fun name => ?_⟩
      rw [hnames, scopes_declare, ScopeStack.isShadowed_declare]
      simp [or_assoc, or_left_comm]
    | unreadable kind => cases hstep
    | scope marked body => cases hstep
    | function name markers body => cases hstep

end Survey

end CrateUsage
