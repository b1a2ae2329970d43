import CrateUsage.Proofs.Tree
import CrateUsage.Attribute

namespace CrateUsage

/-- A question put to some nodes has this answer, or it stops at one of them that has no text. -/
def Answers {α : Type} (nodes : List Node) (question : Except Kind α) (answer : α) : Prop :=
  question = .ok answer ∨ ∃ m ∈ nodes, m.text = none ∧ question = .error m.kind

section Answers

variable {α β : Type} {nodes : List Node} {question : Except Kind α} {answer : α}

theorem Answers.pure (nodes : List Node) (answer : α) : Answers nodes (pure answer) answer :=
  .inl rfl

theorem Answers.mono {more : List Node} (h : Answers nodes question answer)
    (hs : ∀ m ∈ nodes, m ∈ more) : Answers more question answer := by
  rcases h with h | ⟨m, hm, ht, he⟩
  · exact .inl h
  · exact .inr ⟨m, hs m hm, ht, he⟩

theorem Answers.bind {next : α → Except Kind β} {last : β} (h : Answers nodes question answer)
    (hn : Answers nodes (next answer) last) : Answers nodes (question >>= next) last := by
  rcases h with rfl | ⟨m, hm, ht, rfl⟩
  · exact hn
  · exact .inr ⟨m, hm, ht, rfl⟩

theorem Answers.map {f : α → β} (h : Answers nodes question answer) :
    Answers nodes (f <$> question) (f answer) := by
  rcases h with rfl | ⟨m, hm, ht, rfl⟩
  · exact .inl rfl
  · exact .inr ⟨m, hm, ht, rfl⟩

theorem Answers.eq_ok (h : Answers nodes question answer) (ht : ∀ m ∈ nodes, m.text ≠ none) :
    question = .ok answer := by
  rcases h with h | ⟨m, hm, hn, -⟩
  · exact h
  · exact absurd hn (ht m hm)

theorem Answers.of_error {kind : Kind} {P : Kind → Prop} (h : Answers nodes question answer)
    (he : question = .error kind) (hp : ∀ m ∈ nodes, m.text = none → P m.kind) : P kind := by
  rcases h with h | ⟨m, hm, ht, hk⟩
  · rw [h] at he
    cases he
  · rw [he] at hk
    cases hk
    exact hp m hm ht

end Answers

def Node.word (n : Node) : String := n.text.getD ""

theorem answers_read (n : Node) : Answers [n] n.read n.word := by
  unfold Node.read Node.word
  cases ht : n.text with
  | some text => exact .inl rfl
  | none => exact .inr ⟨n, List.mem_singleton.mpr rfl, ht, rfl⟩

namespace Attribute

def word (a : Node) : Option String :=
  match a.namedChildren with
  | path :: _ => if path.kind = .identifier then some path.word else none
  | [] => none

def marksTests (a : Node) : Bool :=
  word a = some "cfg" &&
    match (a.child? "arguments").map Node.children with
    | some [opening, argument, closing] =>
      opening.kind = .openParen && closing.kind = .closeParen && argument.kind = .identifier &&
        argument.word = "test"
    | _ => false

theorem answers_name (a : Node) : Answers a.preorder (name a) (word a) := by
  unfold name word
  cases hp : a.namedChildren with
  | nil => exact .pure _ _
  | cons path rest =>
    dsimp only
    split
    · have hm : path ∈ a.children := Node.mem_children_of_namedChildren (hp ▸ List.mem_cons_self)
      refine ((answers_read path).mono ?_).map
      intro m hs
      rw [List.mem_singleton.mp hs]
      exact Node.mem_preorder_of_child hm path.self_mem_preorder
    · exact .pure _ _

theorem answers_isCfgTest (a : Node) : Answers a.preorder (isCfgTest a) (marksTests a) := by
  unfold isCfgTest marksTests
  refine (answers_name a).bind ?_
  by_cases hw : word a = some "cfg"
  · simp only [hw, ne_eq, not_true_eq_false, if_false, decide_true, Bool.true_and]
    cases hc : a.child? "arguments" with
    | none => exact .pure _ _
    | some arguments =>
      rcases ht : arguments.children with _ | ⟨opening, _ | ⟨argument, _ | ⟨closing, _ | _⟩⟩⟩
      case cons.cons.cons.nil =>
        simp only [Option.map_some, ht]
        split
        · rename_i hk
          have ha : arguments ∈ a.children := Node.mem_children_of_child? hc
          have hm : argument ∈ arguments.children := by simp [ht]
          simp only [hk, decide_true, Bool.and_self, Bool.true_and]
          refine ((answers_read argument).mono ?_).bind (.pure _ _)
          intro m hs
          rw [List.mem_singleton.mp hs]
          exact Node.mem_preorder_of_child ha
            (Node.mem_preorder_of_child hm argument.self_mem_preorder)
        · rename_i hk
          have hf : (decide (opening.kind = .openParen) && decide (closing.kind = .closeParen) &&
              decide (argument.kind = .identifier)) = false := by
            simpa [and_assoc] using hk
          simp only [hf, Bool.false_and]
          exact .pure _ _
      all_goals
        simp only [Option.map_some, ht]
        exact .pure _ _
  · simp only [hw, ne_eq, not_false_eq_true, if_true, decide_false, Bool.false_and]
    exact .pure _ _

theorem answers_anyCfgTest (as : List Node) :
    Answers (as.flatMap Node.preorder) (anyCfgTest as) (as.any marksTests) := by
  induction as with
  | nil => exact .pure _ _
  | cons a as ih =>
    unfold anyCfgTest
    refine ((answers_isCfgTest a).mono fun m hm => List.mem_append_left _ hm).bind ?_
    cases hm : marksTests a with
    | true =>
      simp only [List.any_cons, hm, Bool.true_or]
      exact .pure _ _
    | false =>
      simp only [List.any_cons, hm, Bool.false_or]
      exact ih.mono fun m hm => List.mem_append_right _ hm

theorem answers_mapM_name (as : List Node) :
    Answers (as.flatMap Node.preorder) (as.mapM name) (as.map word) := by
  induction as with
  | nil => exact .pure _ _
  | cons a as ih =>
    rw [List.mapM_cons]
    exact ((answers_name a).mono fun m hm => List.mem_append_left _ hm).bind
      ((ih.mono fun m hm => List.mem_append_right _ hm).bind (.pure _ _))

end Attribute

def Markers.told (attributes : List Node) : Markers where
  isTest := (attributes.map Attribute.word).contains (some "test")
  isProcMacro := (attributes.map Attribute.word).contains (some "proc_macro")
  isCfgTest := attributes.any Attribute.marksTests

theorem answers_markers (attributes : List Node) :
    Answers (attributes.flatMap Node.preorder) (Markers.ofAttributes attributes)
      (Markers.told attributes) :=
  (Attribute.answers_mapM_name attributes).bind
    ((Attribute.answers_anyCfgTest attributes).bind (.pure _ _))

end CrateUsage
