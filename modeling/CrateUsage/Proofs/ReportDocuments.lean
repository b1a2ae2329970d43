import CrateUsage.Proofs.JsonReports

namespace CrateUsage

namespace Json

/-- What a document is written with: new lines, and the characters of ASCII that can be seen. -/
def isShown (c : Char) : Bool := c = '\n' || (' ' ≤ c && c ≤ '~')

section Characters

theorem shown_hex (width n : Nat) : (Text.hex width n).all isShown = true := by
  have hdigit : ∀ d < 16, isShown (Nat.digitChar d) = true := by decide
  induction width generalizing n with
  | zero => rfl
  | succ width ih =>
    have hlast : isShown (Text.hexDigit n) = true := hdigit (n % 16) (Nat.mod_lt n (by decide))
    simp [Text.hex, ih, hlast]

theorem shown_unitEscapes (n : Nat) : (unitEscapes n).all isShown = true := by
  have hslash : isShown '\\' = true := rfl
  have hunit : isShown 'u' = true := rfl
  unfold unitEscapes
  split
  · simp [hslash, hunit, shown_hex]
  · simp [hslash, hunit, shown_hex]

theorem shown_escapedChar (c : Char) : (escapedChar c).all isShown = true := by
  unfold escapedChar
  iterate 7
    split
    · rfl
  split
  · rename_i hshown
    simp [isShown, hshown]
  · exact shown_unitEscapes c.toNat

theorem shown_quoted (s : String) : (quoted s).all isShown = true := by
  have hquote : isShown '"' = true := rfl
  simp [quoted, hquote, List.all_flatMap, shown_escapedChar]

theorem shown_newLine (level : Nat) : (newLine level).all isShown = true := by
  have hblank : isShown ' ' = true := rfl
  have hfeed : isShown '\n' = true := rfl
  simp [newLine, hblank, hfeed]

theorem shown_bracketed (level : Nat) {opening closing : Char} (ho : isShown opening = true)
    (hc : isShown closing = true) {parts : List (List Char)}
    (h : ∀ part ∈ parts, part.all isShown = true) :
    (bracketed level opening closing parts).all isShown = true := by
  have hcomma : isShown ',' = true := rfl
  have hrow : (List.intercalate (',' :: newLine (level + 1)) parts).all isShown = true := by
    induction parts with
    | nil => rfl
    | cons part parts ih =>
      have hpart := h part List.mem_cons_self
      have hparts := ih fun other hm => h other (List.mem_cons_of_mem _ hm)
      cases parts with
      | nil => rwa [List.intercalate_singleton]
      | cons next parts =>
        rw [List.intercalate_cons_cons, List.all_append, List.all_append, List.all_cons, hcomma,
          shown_newLine, hpart, hparts]
        rfl
  cases parts with
  | nil => simp [bracketed, ho, hc]
  | cons part parts => simp [bracketed, ho, hc, hrow, shown_newLine]

mutual
/-- Whatever the texts of a value hold, all that is written of it can be seen. -/
theorem Value.shown_chars (level : Nat) : ∀ v : Value, (v.chars level).all isShown = true
  | null => rfl
  | bool true => rfl
  | bool false => rfl
  | text s => shown_quoted s
  | array items => shown_bracketed level rfl rfl (Value.shown_itemChars (level + 1) items)
  | object members => shown_bracketed level rfl rfl (Value.shown_memberChars (level + 1) members)

theorem Value.shown_itemChars (level : Nat) : ∀ vs : List Value,
    ∀ part ∈ itemChars level vs, part.all isShown = true
  | [], _, hm => by cases hm
  | v :: vs, part, hm => by
    rcases List.mem_cons.mp hm with he | hm
    · subst part
      exact Value.shown_chars level v
    · exact Value.shown_itemChars level vs part hm

theorem Value.shown_memberChars (level : Nat) : ∀ ms : List (String × Value),
    ∀ part ∈ memberChars level ms, part.all isShown = true
  | [], _, hm => by cases hm
  | (key, v) :: ms, part, hm => by
    rcases List.mem_cons.mp hm with he | hm
    · subst part
      have hcolon : isShown ':' = true := rfl
      have hblank : isShown ' ' = true := rfl
      simp only [List.all_append, List.all_cons, shown_quoted, hcolon, hblank,
        Value.shown_chars level v, Bool.and_self]
    · exact Value.shown_memberChars level ms part hm
end

end Characters
end Json

namespace Report

section Documents

variable {analyses before after : List FileAnalysis} {a : FileAnalysis}

/-- Of the analyses of a path the last one counts. -/
theorem lastOutcome?_of_last (h : ∀ b ∈ after, b.path.text ≠ a.path.text) :
    lastOutcome? (before ++ a :: after) a.path.text = some a.outcome := by
  have hafter : after.reverse.find? (·.path.text = a.path.text) = none := by
    rw [List.find?_eq_none]
    intro b hb he
    exact h b (List.mem_reverse.mp hb) (of_decide_eq_true he)
  rw [lastOutcome?, List.reverse_append, List.reverse_cons, List.append_assoc, List.find?_append,
    hafter, Option.none_or, List.singleton_append, List.find?_cons_of_pos (by simp),
    Option.map_some]

/-- A member of a report for each path, with what the last analysis of the path came to. -/
theorem mem_members_of_last (hlast : lastOutcome? analyses a.path.text = some a.outcome)
    (ha : a ∈ analyses) : (a.path.text, outcomeValue a.outcome) ∈ members analyses := by
  apply List.mem_filterMap.mpr
  refine ⟨a.path.text, ?_, ?_⟩
  · rw [Text.mem_sorted, List.mem_eraseDups]
    exact List.mem_map_of_mem ha
  · rw [hlast, Option.map_some]

theorem pairwise_keys_members : ((members analyses).map (·.1)).Pairwise (· < ·) := by
  rw [keys_members]
  exact Text.pairwise_lt_sorted (nodup_eraseDups _)

/-- A report is a document of plain characters, and what is read from it is what was written:
ascending keys, one for each path, and for each of them what its last analysis came to. -/
theorem document_reads_back (analyses : List FileAnalysis) :
    (document analyses).render.toList.all Json.isShown = true ∧
      ∃ members, Json.Value.ofDocument? (document analyses).render = some (.object members) ∧
        (members.map (·.1)).Pairwise (· < ·) ∧
        (∀ key, key ∈ members.map (·.1) ↔ ∃ a ∈ analyses, a.path.text = key) ∧
        ∀ before a after, analyses = before ++ a :: after →
          (∀ b ∈ after, b.path.text ≠ a.path.text) →
            (∀ usage, a.outcome = .ok usage → (a.path.text, usageValue usage) ∈ members) ∧
            (∀ text, a.outcome = .error (some text) →
              (a.path.text, .object [("error", .text text)]) ∈ members) ∧
            (a.outcome = .error none → (a.path.text, .object [("error", .null)]) ∈ members) := by
  refine ⟨?_, members analyses, ?_, pairwise_keys_members, fun key => mem_keys_members, ?_⟩
  · rw [Json.Value.render, String.toList_ofList]
    exact Json.Value.shown_chars 0 (document analyses)
  · have hread : Json.Value.ofDocument? ((document analyses).render ++ "") =
        some (document analyses) := Json.Value.ofDocument?_render _ rfl
    rw [String.append_empty] at hread
    exact hread
  · intro before a after he hlast
    subst analyses
    have hmember := mem_members_of_last (lastOutcome?_of_last hlast)
      (List.mem_append_right before List.mem_cons_self)
    refine ⟨?_, ?_, ?_⟩
    · intro usage ho
      rw [ho] at hmember
      exact hmember
    · intro text ho
      rw [ho] at hmember
      exact hmember
    · intro ho
      rw [ho] at hmember
      exact hmember

/-- Two analyses of one path, whose name needs escapes, and one of a path beyond the first plane. -/
theorem document_of_three :
    let marked : FilePath := .ofString "a\"b\\c.rs"
    let cat : FilePath := .ofString "é🐈.rs"
    let usage : Usage := { hints := {}, normal := ["serde", "été"], testOnly := [] }
    let analyses : List FileAnalysis :=
      [⟨marked, .error (some "late")⟩, ⟨cat, .error (some "\x00\n🐈")⟩, ⟨marked, .ok usage⟩]
    ∃ members, Json.Value.ofDocument? (document analyses).render = some (.object members) ∧
      (∀ key, key ∈ members.map (·.1) ↔ key = "a\"b\\c.rs" ∨ key = "é🐈.rs") ∧
      ("a\"b\\c.rs", usageValue usage) ∈ members ∧
      ("é🐈.rs", .object [("error", .text "\x00\n🐈")]) ∈ members := by
  intro marked cat usage analyses
  have hmarked : marked.text = "a\"b\\c.rs" := by decide
  have hcat : cat.text = "é🐈.rs" := by decide
  obtain ⟨-, members, hread, -, hkeys, hmembers⟩ := document_reads_back analyses
  refine ⟨members, hread, ?_, ?_, ?_⟩
  · intro key
    rw [hkeys]
    simp only [analyses, List.mem_cons, List.not_mem_nil, or_false, exists_eq_or_imp,
      exists_eq_left, hmarked, hcat]
    grind
  · rw [← hmarked]
    exact (hmembers [_, _] ⟨marked, .ok usage⟩ [] rfl (by simp)).1 usage rfl
  · rw [← hcat]
    refine (hmembers [_] ⟨cat, _⟩ [_] rfl ?_).2.1 _ rfl
    decide

end Documents

end Report
end CrateUsage
