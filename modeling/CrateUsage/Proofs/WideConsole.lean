import CrateUsage.Console.Wrap
import Mathlib.Data.List.SplitBy

namespace CrateUsage

namespace Text

/-- The room of a text behind a character that a selector may still widen. -/
def widthFrom (last : Option Char) (cs : List Char) : Nat := total ((cellsFrom last cs).map (·.2))

theorem width_eq (cs : List Char) : width cs = widthFrom none cs := by
  have hfold : ∀ (ns : List Nat) (n : Nat), ns.foldl (· + ·) n = n + total ns := by
    intro ns
    induction ns with
    | nil => exact fun _ => rfl
    | cons m ns ih =>
      intro n
      rw [List.foldl_cons, ih, total_cons, Nat.add_assoc]
  rw [width, hfold, Nat.zero_add]
  rfl

theorem widthFrom_nil (last : Option Char) : widthFrom last [] = 0 := rfl

theorem widthFrom_joiner (last : Option Char) (c : Char) (cs : List Char) :
    widthFrom last ('\u200d' :: c :: cs) = widthFrom last cs := by
  simp [widthFrom, cellsFrom, total_cons]

theorem widthFrom_selector (last : Option Char) (cs : List Char) :
    widthFrom last ('\ufe0f' :: cs)
      = (if last.any widenedRanges.contains then 1 else 0) + widthFrom none cs := by
  simp [widthFrom, cellsFrom, total_cons]

theorem widthFrom_cons (last : Option Char) {c : Char} {cs : List Char}
    (hjoin : ∀ d ds, c = '\u200d' → cs = d :: ds → False) (hselect : c = '\ufe0f' → False) :
    widthFrom last (c :: cs)
      = charCells c + widthFrom (if charCells c = 0 then last else some c) cs := by
  simp [widthFrom, cellsFrom.eq_4 last c cs hjoin hselect, total_cons]

/-- A selector at the head of a text has nothing to widen there. -/
theorem widthFrom_none_le (last : Option Char) (cs : List Char) :
    widthFrom none cs ≤ widthFrom last cs := by
  fun_induction cellsFrom last cs with
  | case1 => exact Nat.le_refl _
  | case2 last c cs ih => rwa [widthFrom_joiner, widthFrom_joiner]
  | case3 last cs ih =>
    rw [widthFrom_selector, widthFrom_selector]
    exact Nat.add_le_add_right (Nat.zero_le _) _
  | case4 last c cs hjoin hselect ih =>
    rw [widthFrom_cons none hjoin hselect, widthFrom_cons last hjoin hselect]
    split at ih
    · rename_i hzero
      rw [if_pos hzero, if_pos hzero]
      exact Nat.add_le_add_left ih _
    · rename_i hzero
      rw [if_neg hzero, if_neg hzero]

/-- A text takes no less room than the two parts of it, where none but a joiner reaches from the
first into the second. -/
theorem widthFrom_append_le (last : Option Char) {cs : List Char}
    (h : cs.getLast? ≠ some '\u200d') (more : List Char) :
    widthFrom last cs + widthFrom none more ≤ widthFrom last (cs ++ more) := by
  fun_induction cellsFrom last cs with
  | case1 last =>
    rw [widthFrom_nil, Nat.zero_add]
    exact widthFrom_none_le last more
  | case2 last c cs ih =>
    rw [List.cons_append, List.cons_append, widthFrom_joiner, widthFrom_joiner]
    refine ih fun hlast => h ?_
    cases cs with
    | nil => cases hlast
    | cons d ds => simpa [List.getLast?_cons_cons] using hlast
  | case3 last cs ih =>
    rw [List.cons_append, widthFrom_selector, widthFrom_selector, Nat.add_assoc]
    refine Nat.add_le_add_left (ih fun hlast => h ?_) _
    cases cs with
    | nil => cases hlast
    | cons d ds => simpa [List.getLast?_cons_cons] using hlast
  | case4 last c cs hjoin hselect ih =>
    have hc : c ≠ '\u200d' := by
      rintro rfl
      cases cs with
      | nil => exact h rfl
      | cons d ds => exact hjoin d ds rfl rfl
    rw [List.cons_append, widthFrom_cons last hjoin hselect,
      widthFrom_cons last (fun _ _ h => (hc h).elim) hselect, Nat.add_assoc]
    refine Nat.add_le_add_left (ih fun hlast => h ?_) _
    cases cs with
    | nil => cases hlast
    | cons d ds => simpa [List.getLast?_cons_cons] using hlast

theorem widthFrom_le_append (last : Option Char) (cs more : List Char) :
    widthFrom last cs ≤ widthFrom last (cs ++ more) := by
  fun_induction cellsFrom last cs with
  | case1 => exact Nat.zero_le _
  | case2 last c cs ih =>
    rwa [List.cons_append, List.cons_append, widthFrom_joiner, widthFrom_joiner]
  | case3 last cs ih =>
    rw [List.cons_append, widthFrom_selector, widthFrom_selector]
    exact Nat.add_le_add_left ih _
  | case4 last c cs hjoin hselect ih =>
    by_cases hc : c = '\u200d'
    · subst hc
      cases cs with
      | nil =>
        have hzero : charCells '\u200d' = 0 := by decide
        rw [widthFrom_cons last hjoin hselect, hzero, if_pos rfl]
        exact Nat.zero_le _
      | cons d ds => exact (hjoin d ds rfl rfl).elim
    · rw [List.cons_append, widthFrom_cons last hjoin hselect,
        widthFrom_cons last (fun _ _ h => (hc h).elim) hselect]
      exact Nat.add_le_add_left ih _

theorem width_le_append (cs more : List Char) : width cs ≤ width (cs ++ more) := by
  rw [width_eq, width_eq]
  exact widthFrom_le_append none cs more

theorem append_trimEnd (cs : List Char) : ∃ blanks, trimEnd cs ++ blanks = cs := by
  refine ⟨(cs.reverse.takeWhile isSpace).reverse, ?_⟩
  rw [trimEnd, ← List.reverse_append, List.takeWhile_append_dropWhile, List.reverse_reverse]

theorem width_trimEnd_le (cs : List Char) : width (trimEnd cs) ≤ width cs := by
  obtain ⟨blanks, h⟩ := append_trimEnd cs
  have := width_le_append (trimEnd cs) blanks
  rwa [h] at this

/-- The words of a line take no more room than the line, for each but the last ends in a blank. -/
theorem total_width_le {ws : List (List Char)}
    (h : ws.IsChain fun w _ => w.getLast? ≠ some '\u200d') :
    total (ws.map width) ≤ width ws.flatten := by
  induction ws with
  | nil => exact Nat.zero_le _
  | cons w ws ih =>
    cases ws with
    | nil => simp [total_cons, total_nil]
    | cons w' ws =>
      obtain ⟨hw, hrest⟩ := List.isChain_cons_cons.mp h
      have hle := widthFrom_append_le none hw (w' :: ws).flatten
      rw [← width_eq, ← width_eq, ← width_eq] at hle
      rw [List.map_cons, total_cons, List.flatten_cons]
      exact Nat.le_trans (Nat.add_le_add_left (ih hrest) _) hle

end Text

namespace Console

open Text (isSpace trimEnd width)

theorem expandTabs_of_not_mem {line : List Char} (h : '\t' ∉ line) : expandTabs line = line := by
  rw [expandTabs, List.splitOn_eq_singleton h, expandTabsFrom]

/-- A line is its words, and none but the last of them ends without a blank. -/
theorem spacedWords_eq (line : List Char) :
    spacedWords line = [] ∨ (spacedWords line).flatten = line ∧
      (spacedWords line).IsChain fun w _ => w.getLast? ≠ some '\u200d' := by
  have hflat := List.flatten_splitBy (fun a b => !isSpace a || isSpace b) (line.dropWhile isSpace)
  have hchain :=
    List.isChain_getLast_head_splitBy (fun a b => !isSpace a || isSpace b) (line.dropWhile isSpace)
  have hblank : ∀ w w' : List Char,
      (∃ ha hb, (!isSpace (w.getLast ha) || isSpace (w'.head hb)) = false) →
        w.getLast? ≠ some '\u200d' := by
    rintro w w' ⟨ha, hb, h⟩ hlast
    rw [List.getLast?_eq_some_getLast ha] at hlast
    rw [Option.some.inj hlast] at h
    have hjoin : isSpace '\u200d' = false := by decide
    simp [hjoin] at h
  unfold spacedWords
  cases hs : (line.dropWhile isSpace).splitBy fun a b => !isSpace a || isSpace b with
  | nil => exact .inl rfl
  | cons first rest =>
    rw [hs] at hflat hchain
    have hne : first ≠ [] := List.ne_nil_of_mem_splitBy (hs ▸ List.mem_cons_self)
    refine .inr ⟨?_, ?_⟩
    · change ((line.takeWhile isSpace ++ first) :: rest).flatten = line
      rw [List.flatten_cons, List.append_assoc, ← List.flatten_cons, hflat,
        List.takeWhile_append_dropWhile]
    · have hchain := hchain.imp fun w w' => hblank w w'
      cases rest with
      | nil => exact .singleton _
      | cons second rest =>
        obtain ⟨hfirst, hrest⟩ := List.isChain_cons_cons.mp hchain
        refine .cons_cons ?_ hrest
        rwa [List.getLast?_append, Option.or_of_isSome (by simpa using hne)]

/-- Words that all fit go on one line. -/
theorem Filling.foldl_add {columns : Nat} {ws : List (List Char)} {f : Filling} (hf : f.done = [])
    (h : f.used + Text.total (ws.map width) ≤ columns) :
    (ws.foldl (add columns) f).lines = [f.line ++ ws.flatten] := by
  induction ws generalizing f with
  | nil => simp [lines, hf]
  | cons w ws ih =>
    rw [List.map_cons, Text.total_cons, ← Nat.add_assoc] at h
    have hfits : f.used + width (trimEnd w) ≤ columns := by
      have := Text.width_trimEnd_le w
      omega
    have hrest := ih (f := { f with line := f.line ++ w, used := f.used + width w }) hf h
    rw [List.foldl_cons, add, if_pos hfits, hrest, List.flatten_cons, List.append_assoc]

theorem breakLine_of_width_le {columns : Nat} {line : List Char} (h : width line ≤ columns) :
    breakLine (Filling.add columns) line = [line] := by
  unfold breakLine
  rcases spacedWords_eq line with hnil | ⟨hflat, hchain⟩
  · rw [hnil]
  · split
    · rfl
    · have hsum := Text.total_width_le hchain
      rw [hflat] at hsum
      rw [Filling.foldl_add rfl (by simpa using Nat.le_trans hsum h), hflat]
      rfl

/-- A line that fits is shown as it is, unless it has blanks at its end and characters that take
no room. -/
theorem wrapLine_of_width_le {columns : Nat} {line : List Char} (h : width line ≤ columns)
    (hend : line.length ≤ columns ∨ trimEnd line = line) :
    ((breakLine (Filling.add columns) line).map fun part =>
      cut columns (dropExcess columns part)) = [line] := by
  have hkept : dropExcess columns line = line := by
    rcases hend with hlen | htrim
    · rw [dropExcess, Nat.sub_eq_zero_of_le hlen, Nat.min_zero, Nat.sub_zero, List.take_length]
    · have hblank : line.reverse.takeWhile isSpace = [] := by
        have hdrop : line.reverse.dropWhile isSpace = line.reverse := by
          rw [← List.reverse_inj, List.reverse_reverse]
          exact htrim
        have hcat := List.takeWhile_append_dropWhile (p := isSpace) (l := line.reverse)
        rw [hdrop] at hcat
        exact List.append_left_eq_self.mp hcat
      rw [dropExcess, hblank, List.length_nil, Nat.zero_min, Nat.sub_zero, List.take_length]
  rw [breakLine_of_width_le h, List.map_singleton, hkept, cut, if_pos h]

/-- A text without line feeds and tabs that fits, and ends in no blank, is one line. -/
theorem wrap_of_width_le {columns : Nat} {cs : List Char} (hfeed : '\n' ∉ cs) (htab : '\t' ∉ cs)
    (h : width cs ≤ columns) (htrim : trimEnd cs = cs) : wrap columns cs = [cs] := by
  rw [wrap, List.splitOn_eq_singleton hfeed, List.flatMap_singleton, expandTabs_of_not_mem htab,
    wrapLine_of_width_le h (.inr htrim)]

/-- A console that is wide enough shows a text as the lines that it has. -/
theorem exists_wrap_eq (cs : List Char) :
    ∃ enough, ∀ columns, enough ≤ columns →
      wrap columns cs = (cs.splitOn '\n').map expandTabs := by
  have hlines : ∀ lines : List (List Char), ∃ enough, ∀ columns, enough ≤ columns →
      (lines.flatMap fun line =>
        (breakLine (Filling.add columns) (expandTabs line)).map fun part =>
          cut columns (dropExcess columns part))
        = lines.map expandTabs := by
    intro lines
    induction lines with
    | nil => exact ⟨0, fun _ _ => rfl⟩
    | cons line lines ih =>
      obtain ⟨enough, henough⟩ := ih
      refine ⟨max enough (max (width (expandTabs line)) (expandTabs line).length), ?_⟩
      intro columns hcolumns
      have hwidth : width (expandTabs line) ≤ columns := by omega
      have hlength : (expandTabs line).length ≤ columns := by omega
      rw [List.flatMap_cons, wrapLine_of_width_le hwidth (.inl hlength),
        henough columns (by omega)]
      rfl
  exact hlines _

end Console
end CrateUsage
