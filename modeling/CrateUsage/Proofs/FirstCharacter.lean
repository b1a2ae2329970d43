import CrateUsage.Proofs.LiteralText
import CrateUsage.Proofs.WideConsole

namespace CrateUsage.Console

open Text (isSpace trimEnd width)

/-- A character that is shown as it is at the head of a text: one cell wide, no blank, and neither
of those that begin a tag, an escape or a picture. -/
structure IsPlain (c : Char) : Prop where
  ascii : (' ' ≤ c && c ≤ '~') = true
  seen : isSpace c = false
  fixed : Markup.isCursorControl c = false
  notBracket : c ≠ '['
  notSlash : c ≠ '\\'
  notColon : c ≠ ':'

def Begins (c : Char) (lines : List (List Char)) : Prop := ∃ line more, lines = (c :: line) :: more

namespace Markup

/-- What is done of a text is not lost where reading goes on. -/
theorem exists_piecesFrom {c : Char} {done : List Char} (h : done.getLast? = some c)
    (position backslashes : Nat) (cs : List Char) :
    ∃ more ps, piecesFrom position backslashes done cs = .text (c :: more) :: ps := by
  have hplain : ∀ before : List Char, before.getLast? = some c →
      ∃ more, plain before = [.text (c :: more)] := by
    intro before hb
    rw [List.getLast?_eq_head?_reverse] at hb
    cases hr : before.reverse with
    | nil =>
      rw [hr] at hb
      cases hb
    | cons d more =>
      rw [hr] at hb
      cases hb
      refine ⟨more, ?_⟩
      rw [← hr]
      cases before with
      | nil => cases hr
      | cons _ _ => rfl
  fun_induction piecesFrom position backslashes done cs with
  | case1 position backslashes done =>
    obtain ⟨more, hmore⟩ := hplain (List.replicate backslashes '\\' ++ done)
      (by rw [List.getLast?_append, h]; rfl)
    exact ⟨more, [], hmore⟩
  | case2 position backslashes done cs ih => exact ih h
  | case3 position backslashes done c' cs hc' body rest htag ih =>
    obtain ⟨more, hmore⟩ := hplain done h
    exact ⟨more, _, by rw [hmore]; rfl⟩
  | case4 position backslashes done c' cs hc' htag ih =>
    exact ih (by rw [List.getLast?_append, h]; rfl)

/-- Reading goes past the character: it begins neither a tag nor an escape. -/
theorem piecesFrom_isPlain {c : Char} (hc : IsPlain c) (position : Nat) (cs : List Char) :
    piecesFrom position 0 [] (c :: cs) = piecesFrom (position + 1) 0 [c] cs := by
  rw [piecesFrom, if_neg hc.notSlash]
  split
  · rename_i hsome
    rw [if_neg hc.notBracket] at hsome
    cases hsome
  · rfl

theorem unescaped_isPlain {c : Char} (hc : IsPlain c) (cs : List Char) :
    unescaped (c :: cs) = c :: unescaped cs := by
  rw [unescaped.eq_def]
  split
  · rename_i heq
    cases heq
  · rename_i heq
    cases heq
    exact absurd rfl hc.notSlash
  · rename_i heq
    cases heq
    rfl

/-- A text in a style begins with the character behind the tag. -/
theorem shown_tagged_begins {c : Char} (hc : IsPlain c) {name : List Char} (h : Encloses name)
    {cs text : List Char} (hs : shown (String.ofList (tagged name (c :: cs))) = .ok text) :
    ∃ more, text = c :: more := by
  obtain ⟨p, q, hopen⟩ := piecesFrom_tag untagged_nil (by exact nofun)
    (tag?_name h.start h.inner (c :: cs)) 0
  obtain ⟨more, ps, hpieces⟩ := exists_piecesFrom (rfl : [c].getLast? = some c) (q + 1) 0 cs
  have hreplaced : Emoji.replace (unescaped (c :: more)) =
      c :: Emoji.replace (unescaped more) := by
    rw [unescaped_isPlain hc, Emoji.replace, if_neg hc.notColon]
  have htext : textOf [] (pieces (tagged name (c :: cs))) =
      (c :: Emoji.replace (unescaped more) ++ ·) <$> textOf [String.ofList name] ps := by
    rw [pieces, tagged]
    rw [List.nil_append] at hopen
    rw [hopen, piecesFrom_isPlain hc, hpieces]
    change textOf [] (.tag p name :: .text (c :: more) :: ps) = _
    rw [textOf, h.opens]
    change textOf [String.ofList name] (.text (c :: more) :: ps) = _
    rw [textOf, hreplaced]
    cases textOf [String.ofList name] ps <;> rfl
  rw [shown, String.toList_ofList, htext] at hs
  cases hrest : textOf [String.ofList name] ps with
  | error f =>
    rw [hrest] at hs
    cases hs
  | ok rest =>
    rw [hrest] at hs
    cases hs
    refine ⟨(Emoji.replace (unescaped more) ++ rest).filter (!isCursorControl ·), ?_⟩
    change (c :: (Emoji.replace (unescaped more) ++ rest)).filter (!isCursorControl ·) = _
    rw [List.filter_cons, if_pos (by rw [hc.fixed]; rfl)]

end Markup

theorem begins_splitOn {c mark : Char} (h : c ≠ mark) (cs : List Char) :
    Begins c ((c :: cs).splitOn mark) := by
  rw [List.splitOn_cons_eq_if_modifyHead, if_neg (by simpa using h)]
  cases hs : cs.splitOn mark with
  | nil => exact absurd hs (List.splitOn_ne_nil mark cs)
  | cons first rest => exact ⟨first, rest, rfl⟩

/-- What is put behind lines does not change how they begin, unless they are a line without a
character. -/
theorem Begins.of_append {c : Char} {lines : List (List Char)} {line : List Char}
    (h : Begins c (lines ++ [line])) : Begins c lines ∨ lines = [] ∧ line.head? = some c := by
  obtain ⟨first, more, h⟩ := h
  cases lines with
  | nil =>
    cases h
    exact .inr ⟨rfl, rfl⟩
  | cons head lines =>
    cases h
    exact .inl ⟨first, lines, rfl⟩

theorem Begins.append {c : Char} {lines : List (List Char)} (h : Begins c lines)
    (others : List (List Char)) : Begins c (lines ++ others) := by
  obtain ⟨line, more, rfl⟩ := h
  exact ⟨line, more ++ others, rfl⟩

/-- A cut text begins as the text does. -/
theorem begins_chopFrom {c : Char} {line more : List Char} (h : line.reverse = c :: more)
    (columns used : Nat) (cs : List (Char × Nat)) : Begins c (chopFrom columns line used cs) := by
  induction cs generalizing line more used with
  | nil =>
    have hne : line.isEmpty = false := by
      cases line with
      | nil => cases h
      | cons _ _ => rfl
    rw [chopFrom, hne, if_neg Bool.false_ne_true, h]
    exact ⟨more, [], rfl⟩
  | cons d cs ih =>
    obtain ⟨d, n⟩ := d
    rw [chopFrom]
    split
    · rw [h]
      exact ⟨more, _, rfl⟩
    · have hnext : (d :: line).reverse = c :: (more ++ [d]) := by
        rw [List.reverse_cons, h, List.cons_append]
      exact ih hnext _

namespace Filling

theorem lines_eq (f : Filling) : f.lines = f.done.reverse ++ [f.line] := by
  rw [lines, List.reverse_cons]

/-- A word more does not change how the first line begins. -/
theorem begins_add {c : Char} {f : Filling} (h : Begins c f.lines) (columns : Nat)
    (word : List Char) : Begins c (f.add columns word).lines := by
  have hlines := h
  rw [lines_eq] at h
  have hfirst := h.of_append
  unfold add
  dsimp only
  split
  · rw [lines_eq]
    rcases hfirst with hdone | ⟨hdone, hline⟩
    · exact hdone.append _
    · obtain ⟨more, hmore⟩ := List.head?_eq_some_iff.mp hline
      refine ⟨more ++ word, [], ?_⟩
      rw [hdone, hmore]
      rfl
  · split
    · rw [lines_eq, List.reverse_cons, ← lines_eq]
      exact hlines.append _
    · split
      · exact hlines
      · rw [lines_eq, List.reverse_append, List.append_assoc]
        refine Begins.append ?_ _
        split
        · rename_i hempty
          rcases hfirst with hdone | ⟨-, hline⟩
          · exact hdone
          · rw [List.isEmpty_iff.mp hempty] at hline
            cases hline
        · rw [List.reverse_cons]
          exact h

theorem begins_foldl_add {c : Char} {f : Filling} (h : Begins c f.lines) (columns : Nat)
    (words : List (List Char)) : Begins c (words.foldl (add columns) f).lines := by
  induction words generalizing f with
  | nil => exact h
  | cons word words ih => exact ih (begins_add h columns word)

end Filling

section Lines

variable {c : Char} (hc : IsPlain c)

include hc

theorem IsPlain.cells (line : List Char) : ∃ more, Text.cells (c :: line) = (c, 1) :: more := by
  have hwide : Text.charCells c = 1 := if_pos hc.ascii
  have hjoin : ∀ d ds, c = '\u200d' → line = d :: ds → False := by
    rintro d ds rfl
    exact absurd hc.ascii (by decide)
  have hselect : c = '\ufe0f' → False := by
    rintro rfl
    exact absurd hc.ascii (by decide)
  rw [Text.cells, Text.cellsFrom.eq_4 none c line hjoin hselect, hwide]
  exact ⟨_, rfl⟩

theorem IsPlain.expandTabs (line : List Char) :
    ∃ more, Console.expandTabs (c :: line) = c :: more := by
  have htab : c ≠ '\t' := by
    rintro rfl
    exact absurd hc.seen (by decide)
  obtain ⟨first, rest, hs⟩ := begins_splitOn htab line
  rw [Console.expandTabs, hs]
  cases rest with
  | nil => exact ⟨first, rfl⟩
  | cons next rest => exact ⟨_, rfl⟩

/-- The first word of a line begins as the line does. -/
theorem IsPlain.spacedWords (line : List Char) : Begins c (Console.spacedWords (c :: line)) := by
  have hflat := List.flatten_splitBy (fun a b => !isSpace a || isSpace b) (c :: line)
  have hne : ∀ word ∈ (c :: line).splitBy fun a b => !isSpace a || isSpace b, word ≠ [] :=
    fun word => List.ne_nil_of_mem_splitBy
  have hdrop : (c :: line).dropWhile isSpace = c :: line := by simp [hc.seen]
  have htake : (c :: line).takeWhile isSpace = [] := by simp [hc.seen]
  unfold Console.spacedWords
  simp only [hdrop, htake, List.nil_append]
  cases hs : (c :: line).splitBy fun a b => !isSpace a || isSpace b with
  | nil =>
    rw [hs] at hflat
    cases hflat
  | cons first rest =>
    rw [hs] at hflat hne
    cases hfirst : first with
    | nil => exact absurd hfirst (hne first List.mem_cons_self)
    | cons d more =>
      rw [hfirst] at hflat
      cases hflat
      exact ⟨more, rest, rfl⟩

theorem IsPlain.dropExcess (columns : Nat) (line : List Char) :
    ∃ more, Console.dropExcess columns (c :: line) = c :: more := by
  have hblanks : ((c :: line).reverse.takeWhile isSpace).length ≤ line.length := by
    have hc' : [c].takeWhile isSpace = [] := by simp [hc.seen]
    rw [List.reverse_cons, List.takeWhile_append, hc']
    split
    · simp
    · have hle := (List.takeWhile_sublist (l := line.reverse) isSpace).length_le
      simpa using hle
  have hkept : ∃ n, (c :: line).length - min ((c :: line).reverse.takeWhile isSpace).length
      ((c :: line).length - columns) = n + 1 := by
    refine ⟨_, (Nat.succ_pred_eq_of_pos ?_).symm⟩
    rw [List.length_cons]
    omega
  obtain ⟨n, hn⟩ := hkept
  exact ⟨line.take n, by rw [Console.dropExcess, hn, List.take_succ_cons]⟩

variable {columns : Nat} (hcolumns : 0 < columns)

include hcolumns

theorem IsPlain.breakLine (line : List Char) :
    Begins c (Console.breakLine (Filling.add columns) (c :: line)) := by
  obtain ⟨word, words, hwords⟩ := hc.spacedWords line
  obtain ⟨more, hcells⟩ := hc.cells word
  have hchop : Begins c (chop columns (c :: word)) := by
    rw [chop, hcells, chopFrom, if_neg (by omega)]
    exact begins_chopFrom rfl columns _ more
  have hfirst : Begins c (Filling.add columns {} (c :: word)).lines := by
    unfold Filling.add
    dsimp only
    split
    · exact ⟨word, [], rfl⟩
    · rename_i hover
      rw [Nat.zero_add] at hover
      rw [if_neg hover]
      split
      · rename_i hnone
        rw [List.reverse_eq_nil_iff.mp hnone] at hchop
        obtain ⟨_, _, h⟩ := hchop
        cases h
      · rename_i last earlier hsome
        rw [Filling.lines_eq]
        have hall : (earlier ++ []).reverse ++ [last] = chop columns (c :: word) := by
          rw [List.append_nil, ← List.reverse_cons, ← hsome, List.reverse_reverse]
        exact hall ▸ hchop
  unfold Console.breakLine
  rw [hwords]
  exact Filling.begins_foldl_add hfirst columns words

theorem IsPlain.cut (line : List Char) : ∃ more, Console.cut columns (c :: line) = c :: more := by
  obtain ⟨more, hcells⟩ := hc.cells line
  unfold Console.cut
  split
  · exact ⟨line, rfl⟩
  · have hroom : 1 ≤ columns := hcolumns
    rw [hcells, takeCells, if_pos hroom]
    exact ⟨_, rfl⟩

/-- However narrow the screen is, a text begins on it as it begins. -/
theorem IsPlain.wrap (cs : List Char) : Begins c (Console.wrap columns (c :: cs)) := by
  have hfeed : c ≠ '\n' := by
    rintro rfl
    exact absurd hc.seen (by decide)
  obtain ⟨line, lines, hlines⟩ := begins_splitOn hfeed cs
  obtain ⟨line, hline⟩ := hc.expandTabs line
  obtain ⟨part, parts, hparts⟩ := hc.breakLine hcolumns line
  obtain ⟨part, hpart⟩ := hc.dropExcess columns part
  obtain ⟨shown, hshown⟩ := hc.cut hcolumns part
  rw [Console.wrap, hlines, List.flatMap_cons, hline, hparts, List.map_cons, hpart, hshown]
  exact ⟨shown, _, rfl⟩

end Lines
end CrateUsage.Console
