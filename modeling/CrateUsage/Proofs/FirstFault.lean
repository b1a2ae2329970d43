import CrateUsage.Proofs.Batches

namespace CrateUsage

namespace Node

def isFaulty (n : Node) : Bool := n.label.isError || n.label.isMissing

/-- A node tells of an error exactly if it is faulty or a node below it is. -/
def ErrorsTold (root : Node) : Prop :=
  ∀ n ∈ root.preorder, n.label.hasError = true ↔ ∃ m ∈ n.preorder, m.isFaulty = true

instance (root : Node) : Decidable root.ErrorsTold :=
  inferInstanceAs (Decidable (∀ n ∈ root.preorder,
    n.label.hasError = true ↔ ∃ m ∈ n.preorder, m.isFaulty = true))

theorem ErrorsTold.child {n c : Node} (h : n.ErrorsTold) (hc : c ∈ n.children) : c.ErrorsTold :=
  fun m hm => h m (mem_preorder_of_child hc hm)

theorem ErrorsTold.self {n : Node} (h : n.ErrorsTold) :
    n.label.hasError = true ↔ ∃ m ∈ n.preorder, m.isFaulty = true :=
  h n n.self_mem_preorder

theorem firstFault_of_isFaulty {n : Node} (h : n.isFaulty = true) : n.firstFault = some n := by
  obtain ⟨l, cs⟩ := n
  exact if_pos h

theorem firstFault_of_sound {n : Node} (h : n.isFaulty = false) :
    n.firstFault = if n.label.hasError then some ((firstFaultOf n.children).getD n) else none := by
  obtain ⟨l, cs⟩ := n
  have hl : ¬(l.isError || l.isMissing) = true := Bool.eq_false_iff.mp h
  rw [firstFault, if_neg hl]
  rfl

mutual
/-- By induction on the tree: the search leaves out only trees without a faulty node, and no node is
its own answer for want of a better one. -/
theorem firstFault_eq_find? : ∀ n : Node, n.ErrorsTold → n.firstFault = n.preorder.find? isFaulty
  | .mk l cs, h => by
    have hrow := firstFaultOf_eq_find? cs fun c hc => h.child hc
    have htold := h.self
    rw [preorder, List.find?_cons]
    rw [preorder, List.exists_mem_cons_iff] at htold
    cases hf : (mk l cs).isFaulty with
    | true => exact firstFault_of_isFaulty hf
    | false =>
      rw [firstFault_of_sound hf, children_mk, hrow]
      rw [hf] at htold
      simp only [Bool.false_eq_true, false_or] at htold
      split
      · rename_i he
        obtain ⟨m, hm⟩ := Option.isSome_iff_exists.mp (List.find?_isSome.mpr (htold.mp he))
        rw [hm]
        rfl
      · rename_i he
        refine (List.find?_eq_none.mpr fun m hm hfaulty => ?_).symm
        exact he (htold.mpr ⟨m, hm, hfaulty⟩)

theorem firstFaultOf_eq_find? : ∀ ns : List Node, (∀ n ∈ ns, n.ErrorsTold) →
    firstFaultOf ns = (preorderAll ns).find? isFaulty
  | [], _ => rfl
  | n :: ns, h => by
    have hn := firstFault_eq_find? n (h n List.mem_cons_self)
    have hns := firstFaultOf_eq_find? ns fun m hm => h m (List.mem_cons_of_mem _ hm)
    rw [firstFaultOf, preorderAll, List.find?_append, hn, hns]
end

/-- Whatever the nodes below it tell, a node without a fault is sound and tells of none. -/
theorem firstFault_eq_none (n : Node) :
    n.firstFault = none ↔ n.isFaulty = false ∧ n.label.hasError = false := by
  cases hf : n.isFaulty with
  | true => simp [firstFault_of_isFaulty hf]
  | false => simp [firstFault_of_sound hf]

end Node

namespace Rust

/-- A tree that is made of text has no fault and tells of none; the tree of any other text tells of
the one fault that it holds. -/
theorem errorsTold_parse (text : String) : (parse text).ErrorsTold := by
  rcases parse_cases text with h | ⟨t, h⟩
  · intro n hn
    rw [(h n hn).hasError]
    refine ⟨fun he => (Bool.false_ne_true he).elim, fun ⟨m, hm, hf⟩ => ?_⟩
    have hw := h m (Node.mem_preorder_trans _ hn hm)
    rw [Node.isFaulty, hw.isError, hw.isMissing] at hf
    cases hf
  · have hfaulty : t.node.isFaulty = true := by
      cases hm : t.missing <;> simp [Node.isFaulty, Trouble.node, hm]
    have hbelow : ∀ n : Node, t.node ∈ n.preorder → n.label.hasError = true →
        (n.label.hasError = true ↔ ∃ m ∈ n.preorder, m.isFaulty = true) :=
      fun n hn he => ⟨fun _ => ⟨t.node, hn, hfaulty⟩, fun _ => he⟩
    rw [h]
    intro n hn
    rw [Node.preorder_eq] at hn
    rcases List.mem_cons.mp hn with rfl | hn
    · refine hbelow _ ?_ (by simp [Node.withErrorsOfParts, Trouble.node])
      exact Node.mem_preorder_of_child List.mem_cons_self t.node.self_mem_preorder
    · have hleaf : n = t.node := by
        simpa [Node.withErrorsOfParts, Trouble.node, Node.preorder, Node.preorderAll] using hn
      rw [hleaf]
      exact hbelow _ t.node.self_mem_preorder rfl

end Rust

namespace Analysis

/-- A tree is malformed exactly if it has a first fault, and there it is rejected. -/
theorem ofTree_malformed_iff (file : String) (root : Node) (e : SyntaxError) :
    (ofTree file root).1 = .error (.malformed e) ↔ root.syntaxError? = some e := by
  refine ⟨fun h => ?_, ofTree_of_fault file⟩
  cases hs : root.syntaxError? with
  | some other =>
    rw [ofTree_of_fault file hs] at h
    cases h
    rfl
  | none =>
    simp only [ofTree, hs] at h
    split at h <;> cases h

/-- A tree is rejected exactly if one of its nodes is faulty, however deep, and for the first of
them in reading order; so no faulty node is left in a tree that is accepted. Where the nodes tell
wrongly of errors, a tree is accepted exactly if its root is sound and tells of none. -/
theorem rejects_first_fault :
    (∀ root : Node, root.ErrorsTold →
      root.firstFault = root.preorder.find? Node.isFaulty ∧
      (root.firstFault = none ↔ ∀ n ∈ root.preorder, n.isFaulty = false) ∧
      ∀ file : String,
        ((∃ e, (ofTree file root).1 = .error (.malformed e)) ↔
          ∃ n ∈ root.preorder, n.isFaulty = true) ∧
        ∀ e, (ofTree file root).1 = .error (.malformed e) ↔
          ∃ before n after, root.preorder = before ++ n :: after ∧
            (∀ m ∈ before, m.isFaulty = false) ∧ n.isFaulty = true ∧
            e.line = n.label.row + 1 ∧ e.column = n.label.col + 1 ∧
            e.detail =
              if n.label.isMissing then "missing " ++ n.kind.name else "syntax error") ∧
    (∀ root : Node,
      root.firstFault = none ↔ root.isFaulty = false ∧ root.label.hasError = false) ∧
    ∀ text : String, (Rust.parse text).ErrorsTold := by
  refine ⟨fun root h => ?_, Node.firstFault_eq_none, Rust.errorsTold_parse⟩
  have hfind := root.firstFault_eq_find? h
  refine ⟨hfind, ?_, fun file => ⟨?_, fun e => ?_⟩⟩
  · rw [hfind, List.find?_eq_none]
    simp only [Bool.not_eq_true]
  · simp only [ofTree_malformed_iff, Node.syntaxError?, Option.map_eq_some_iff, hfind]
    rw [← List.find?_isSome, Option.isSome_iff_exists]
    constructor
    · rintro ⟨e, n, hn, -⟩
      exact ⟨n, hn⟩
    · rintro ⟨n, hn⟩
      exact ⟨_, n, hn, rfl⟩
  · rw [ofTree_malformed_iff, Node.syntaxError?, Option.map_eq_some_iff, hfind]
    constructor
    · rintro ⟨n, hn, rfl⟩
      obtain ⟨hf, before, after, heq, hbefore⟩ := List.find?_eq_some_iff_append.mp hn
      exact ⟨before, n, after, heq, by simpa using hbefore, hf, rfl, rfl, rfl⟩
    · rintro ⟨before, n, after, heq, hbefore, hf, hline, hcolumn, hdetail⟩
      have hn : root.preorder.find? Node.isFaulty = some n :=
        List.find?_eq_some_iff_append.mpr ⟨hf, before, after, heq, by simpa using hbefore⟩
      refine ⟨n, hn, ?_⟩
      obtain ⟨line, column, detail⟩ := e
      subst hline hcolumn hdetail
      rfl

/-- A semicolon is missing in a block, and behind the block there is an error: only the first of
the two is told. -/
theorem rejects_missing_semicolon :
    let comment := Node.worded .lineComment none "// sound" []
    let missing := Node.withErrorsOfParts
      { kind := .other ";", named := false, row := 1, col := 4, isMissing := true } []
    let body := Node.withErrorsOfParts { kind := .block, row := 1 } [missing]
    let error := Node.withErrorsOfParts { kind := .other "ERROR", row := 2, isError := true } []
    let root := Node.withErrorsOfParts { kind := .sourceFile } [comment, body, error]
    root.ErrorsTold ∧
      (ofTree "lib.rs" root).1 = .error (.malformed ⟨2, 5, "missing ;"⟩) := by
  intro comment missing body error root
  have htold : root.ErrorsTold := by decide
  obtain ⟨-, -, hfile⟩ := rejects_first_fault.1 root htold
  have hbefore : ∀ m ∈ [root, comment, body], m.isFaulty = false := by decide
  refine ⟨htold, ((hfile "lib.rs").2 _).mpr ?_⟩
  exact ⟨[root, comment, body], missing, [error], rfl, hbefore, rfl, rfl, rfl, rfl⟩

end Analysis
end CrateUsage
