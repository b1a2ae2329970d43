import CrateUsage.Proofs.Tree
import CrateUsage.Rust.Parse

namespace CrateUsage

structure Label.IsWritten (l : Label) : Prop where
  text : l.text.isSome = true
  isError : l.isError = false
  isMissing : l.isMissing = false
  hasError : l.hasError = false

namespace Node

def Written (n : Node) : Prop := ∀ m ∈ n.preorder, m.label.IsWritten

theorem written_mk {l : Label} {cs : List Node} (hl : l.IsWritten) (h : ∀ c ∈ cs, c.Written) :
    (mk l cs).Written := by
  intro m hm
  rw [preorder_eq] at hm
  rcases List.mem_cons.mp hm with rfl | hm
  · exact hl
  · obtain ⟨c, hc, hm⟩ := List.mem_flatMap.mp hm
    exact h c hc m hm

theorem Written.legible {n : Node} (h : n.Written) : n.Legible :=
  legible_of_isSome fun m hm => (h m hm).text

end Node

namespace Rust

theorem Lexeme.written_node (x : Lexeme) (kind : Kind) (named : Bool) (field : Option String)
    {children : List Node} (h : ∀ c ∈ children, c.Written) :
    (x.node kind named field children).Written :=
  Node.written_mk ⟨rfl, rfl, rfl, rfl⟩ h

namespace Comment

/-- A leaf of a lexeme has the text of the lexeme. -/
theorem written_leaf (x : Lexeme) (kind : Kind) (named : Bool) (field : Option String) :
    (x.node kind named field []).Written :=
  x.written_node kind named field (List.forall_mem_nil _)

theorem written_docNodes (x : Lexeme) (opening : String) (isInner : Bool)
    {ofMarker : Lexeme → List Node} (h : ∀ marker, ∀ n ∈ ofMarker marker, n.Written) :
    ∀ n ∈ docNodes x opening isInner ofMarker, n.Written := by
  intro n hn
  simp only [docNodes, List.mem_cons, List.not_mem_nil, or_false] at hn
  rcases hn with rfl | rfl | rfl
  · exact written_leaf _ _ _ _
  · exact Lexeme.written_node _ _ _ _ (h _)
  · exact written_leaf _ _ _ _

theorem written_lineParts (x : Lexeme) : ∀ n ∈ lineParts x, n.Written := by
  unfold lineParts
  split
  · refine written_docNodes x _ _ fun marker n hn => ?_
    rw [List.mem_singleton.mp hn]
    exact written_leaf _ _ _ _
  · intro n hn
    rw [List.mem_singleton.mp hn]
    exact written_leaf _ _ _ _

theorem written_blockParts (x : Lexeme) : ∀ n ∈ blockParts x, n.Written := by
  intro n hn
  simp only [blockParts] at hn
  rcases List.mem_append.mp hn with hn | hn
  · split at hn
    · exact written_docNodes _ _ _ (fun _ _ h => by cases h) n (List.mem_filter.mp hn).1
    · rw [List.mem_singleton.mp hn]
      exact written_leaf _ _ _ _
  · rw [List.mem_singleton.mp hn]
    exact written_leaf _ _ _ _

theorem written_node (c : Comment) : c.node.Written := by
  unfold node
  split
  · exact Lexeme.written_node _ _ _ _ (written_blockParts _)
  · exact Lexeme.written_node _ _ _ _ (written_lineParts _)

end Comment

structure Laid.Written (l : Laid) : Prop where
  comments : ∀ n ∈ l.comments, n.Written
  node : ∀ n ∈ l.node, n.Written

namespace Piece

theorem written_comments (t : Trivia) : ∀ n ∈ t.comments.map Comment.node, n.Written := by
  intro n hn
  obtain ⟨c, -, rfl⟩ := List.mem_map.mp hn
  exact c.written_node

/-- The nodes of a part with its comments before them. -/
theorem written_laidNodes {laid : List Laid} (h : ∀ l ∈ laid, l.Written) :
    ∀ n ∈ laid.flatMap fun l => l.comments ++ l.node.toList, n.Written := by
  intro n hn
  obtain ⟨l, hl, hn⟩ := List.mem_flatMap.mp hn
  rcases List.mem_append.mp hn with hn | hn
  · exact (h l hl).comments n hn
  · exact (h l hl).node n (Option.mem_toList.mp hn)

theorem written_nodesOf {laid : List Laid} (h : ∀ l ∈ laid, l.Written) :
    ∀ n ∈ nodesOf laid, n.Written := by
  cases laid with
  | nil => exact List.forall_mem_nil _
  | cons first rest =>
    obtain ⟨hfirst, hrest⟩ := List.forall_mem_cons.mp h
    intro n hn
    rcases List.mem_append.mp hn with hn | hn
    · exact hfirst.node n (Option.mem_toList.mp hn)
    · exact written_laidNodes hrest n hn

mutual
/-- By induction on the parts: each node is made of a lexeme, or of the text of its group. -/
theorem written_lay : ∀ p : Piece, (lay p).Written
  | leaf kind named field trivia x => by
    refine ⟨written_comments trivia, fun n hn => ?_⟩
    rw [← Option.some.inj hn]
    exact Comment.written_leaf _ _ _ _
  | hidden trivia x => ⟨written_comments trivia, fun n hn => by cases hn⟩
  | group kind field parts => by
    have hparts := written_layAll parts
    refine ⟨?_, fun n hn => ?_⟩
    · simp only [lay]
      cases hl : layAll parts with
      | nil => exact List.forall_mem_nil _
      | cons first rest =>
        rw [hl] at hparts
        exact (hparts first List.mem_cons_self).comments
    · rw [← Option.some.inj hn]
      exact Lexeme.written_node _ _ _ _ (written_nodesOf hparts)

theorem written_layAll : ∀ ps : List Piece, ∀ l ∈ layAll ps, l.Written
  | [] => List.forall_mem_nil _
  | p :: ps => List.forall_mem_cons.mpr ⟨written_lay p, written_layAll ps⟩
end

end Piece

/-- The tree of a text is made of pieces of it, or it holds what is wrong with the text and nothing
else. -/
theorem parse_cases (s : String) :
    (parse s).Written ∨ ∃ t : Trouble,
      parse s = .withErrorsOfParts { kind := .sourceFile, text := some "" } [t.node] := by
  simp only [parse]
  split
  · exact .inl (Lexeme.written_node _ _ _ _
      (Piece.written_laidNodes (Piece.written_layAll _)))
  · rename_i t _
    exact .inr ⟨t, rfl⟩

/-- Every node of a parsed text has a text, whether or not the text is Rust. -/
theorem legible_parse (s : String) : (parse s).Legible := by
  rcases parse_cases s with h | ⟨t, h⟩
  · exact h.legible
  · rw [h]
    refine Node.legible_mk rfl fun n hn => ?_
    rw [List.mem_singleton.mp hn]
    exact Node.legible_mk rfl (List.forall_mem_nil _)

theorem isSome_text_parse (s : String) : ∀ n ∈ (parse s).preorder, n.text.isSome = true :=
  fun _ => (legible_parse s).isSome_text

end Rust
end CrateUsage
