import CrateUsage.CommandLine
import CrateUsage.Proofs.Screens
import CrateUsage.Store.Folder

namespace CrateUsage

open Console (Cell Screen expandTabs)
open Console.Markup

namespace CommandLine

theorem toList_linesText (lines : List String) :
    (linesText lines).toList = lines.flatMap fun line => line.toList ++ ['\n'] := by
  induction lines with
  | nil => rfl
  | cons line lines ih =>
    rw [linesText, List.map_cons, String.join_cons, String.toList_append, ← linesText, ih]
    simp

theorem infix_linesText_of_mem {cs : List Char} {line : String} {lines : List String}
    (hline : line ∈ lines) (h : cs <:+: line.toList) : cs <:+: (linesText lines).toList := by
  obtain ⟨before, after, rfl⟩ := List.append_of_mem hline
  obtain ⟨left, right, hinfix⟩ := h
  refine ⟨(linesText before).toList ++ left, right ++ '\n' :: (linesText after).toList, ?_⟩
  simp [toList_linesText, ← hinfix]

theorem linesText_append (lines more : List String) :
    linesText (lines ++ more) = linesText lines ++ linesText more := by
  rw [linesText, List.map_append, String.join_append]
  rfl

/-- The lines of a text, each with its end, put the text together again. -/
theorem flatMap_splitOn (cs : List Char) :
    ((cs.splitOn '\n').flatMap fun line => line ++ ['\n']) = cs ++ ['\n'] := by
  have hlines : ∀ lines : List (List Char), lines ≠ [] →
      (lines.flatMap fun line => line ++ ['\n']) = ['\n'].intercalate lines ++ ['\n'] := by
    intro lines
    induction lines with
    | nil => exact fun h => (h rfl).elim
    | cons line lines ih =>
      intro _
      cases lines with
      | nil => simp
      | cons next lines =>
        rw [List.flatMap_cons, ih (List.cons_ne_nil _ _), List.intercalate_cons_cons]
        simp
  rw [hlines _ (List.splitOn_ne_nil _ _), List.intercalate_splitOn]

theorem toList_linesText_splitOn (cs : List Char) :
    (linesText ((cs.splitOn '\n').map String.ofList)).toList = cs ++ ['\n'] := by
  rw [toList_linesText, List.flatMap_map]
  simp only [String.toList_ofList]
  exact flatMap_splitOn cs

end CommandLine

namespace Report

theorem exists_shown {text : String} (h : '[' ∉ text.toList) : ∃ cs, shown text = .ok cs := by
  have := shown_of_untagged (untagged_of_not_mem h)
  rw [String.ofList_toList] at this
  exact ⟨_, this⟩

def flag (label : String) (holds : Bool) : String :=
  if holds then s!"[green]{label}[/green]" else s!"[dim]no {label}[/dim]"

theorem toList_flag (label : String) (holds : Bool) :
    (flag label holds).toList = if holds then enclosed "green".toList label.toList
      else enclosed "dim".toList ("no ".toList ++ label.toList) := by
  cases holds <;> simp [flag, enclosed, tagged, toString]

def Readable (cs : List Char) : Prop :=
  ∀ position, ∃ text, textOf [] (piecesFrom position 0 [] cs) = .ok text

theorem readable_nil : Readable [] := fun position => ⟨_, textOf_untagged untagged_nil position⟩

theorem Readable.flag {rest : List Char} (hrest : Readable rest) {before : List Char}
    (hb : '[' ∉ before) (hbLast : before.getLast? ≠ some '\\') {label : String}
    (h : '[' ∉ label.toList) (hlast : label.toList.getLast? ≠ some '\\') (holds : Bool) :
    Readable (before ++ ((Report.flag label holds).toList ++ rest)) := by
  intro position
  have hbefore := untagged_of_not_mem hb
  have hlabel := untagged_of_not_mem h
  rw [toList_flag]
  cases holds with
  | true =>
    obtain ⟨q, htext⟩ := textOf_enclosed encloses_green hbefore hbLast hlabel hlast position rest
    obtain ⟨text, hmore⟩ := hrest q
    exact ⟨_, by rw [if_pos rfl, htext, hmore]; rfl⟩
  | false =>
    have hno : Untagged ("no ".toList ++ label.toList) := untagged_append (by decide) hlabel
    obtain ⟨q, htext⟩ := textOf_enclosed encloses_dim hbefore hbLast hno
      (getLast?_append_ne (by decide) hlast) position rest
    obtain ⟨text, hmore⟩ := hrest q
    exact ⟨_, by rw [if_neg Bool.false_ne_true, htext, hmore]; rfl⟩

theorem exists_shown_hintsText (h : Hints) : ∃ cs, shown (hintsText h) = .ok cs := by
  have hflags : (hintsText h).toList = "Hints: ".toList ++ ((flag "main" h.hasMain).toList
      ++ (", ".toList ++ ((flag "tests" h.hasTest).toList
      ++ (", ".toList ++ ((flag "proc-macro" h.hasProcMacro).toList ++ []))))) := by
    have htext : hintsText h = "Hints: " ++ ", ".intercalate
        [flag "main" h.hasMain, flag "tests" h.hasTest, flag "proc-macro" h.hasProcMacro] := by rfl
    rw [htext]
    simp
  have hreadable : Readable (hintsText h).toList := by
    rw [hflags]
    refine .flag (.flag (.flag readable_nil ?_ ?_ ?_ ?_ _) ?_ ?_ ?_ ?_ _) ?_ ?_ ?_ ?_ _
    all_goals decide
  obtain ⟨text, htext⟩ := hreadable 0
  exact ⟨_, shown_of_text htext⟩

theorem bracket_not_mem_toString (n : Nat) : '[' ∉ (toString n).toList := by
  intro h
  rw [Nat.toString_eq_repr, Nat.repr, String.toList_ofList] at h
  cases Nat.isDigit_of_mem_toDigits (by decide) (Nat.le_refl 10) h

theorem bracket_not_mem_lineText (line : Option Int) : '[' ∉ (lineText line).toList := by
  cases line with
  | none => decide
  | some n =>
    cases n with
    | ofNat n =>
      have : lineText (some (.ofNat n)) = "line " ++ toString n := by rfl
      rw [this, String.toList_append, List.mem_append, not_or]
      exact ⟨by decide, bracket_not_mem_toString n⟩
    | negSucc n =>
      have : lineText (some (.negSucc n)) = "line -" ++ toString (n + 1) := by rfl
      rw [this, String.toList_append, List.mem_append, not_or]
      exact ⟨by decide, bracket_not_mem_toString _⟩

theorem exists_lay_table (title : String) {u : Usage}
    (h : ∀ name ∈ u.normal ++ u.testOnly, '[' ∉ name.toList) :
    ∃ laid, (table title u).lay = .ok laid := by
  have hrow : ∀ name ∈ u.normal ++ u.testOnly, ∀ (need style : String) (line : Option Int),
      ∀ cell ∈ [Cell.markup name, .styled need style, .markup (lineText line)],
        ∃ cs, cell.shown = .ok cs := by
    intro name hname need style line cell hcell
    simp only [List.mem_cons, List.not_mem_nil, or_false] at hcell
    rcases hcell with rfl | rfl | rfl
    · exact exists_shown (h name hname)
    · exact ⟨need.toList, rfl⟩
    · exact exists_shown (bracket_not_mem_lineText line)
  refine Console.Table.exists_lay ?_ ?_
  · intro c hc
    simp only [table, List.mem_cons, List.not_mem_nil, or_false] at hc
    rcases hc with rfl | rfl | rfl <;> exact exists_shown (by decide)
  · intro row hmem
    rcases List.mem_append.mp hmem with hmem | hmem
    · obtain ⟨name, hname, rfl⟩ := List.mem_map.mp hmem
      exact hrow name (List.mem_append_left _ hname) _ _ _
    · obtain ⟨name, hname, rfl⟩ := List.mem_map.mp hmem
      exact hrow name (List.mem_append_right _ hname) _ _ _

end Report

namespace FileAnalysis

/-- The text of the user that a report takes over: why a file has no usage, or where it is. -/
def pasted (a : FileAnalysis) : String :=
  match a.outcome with
  | .error error? => error?.getD "None"
  | .ok _ => a.path.text

/-- What a reader is to be told of an analysis. -/
def told (a : FileAnalysis) : String :=
  match a.outcome with
  | .error _ => "Error: " ++ a.pasted
  | .ok _ => a.pasted

/-- A path above a table of crates is a title: one line, not wider than the table. -/
structure Titles (path : String) (u : Usage) : Prop where
  oneLine : '\n' ∉ path.toList
  trimmed : Text.trimEnd path.toList = path.toList
  fits : ∀ laid, (Report.table path u).lay = .ok laid →
    Text.width path.toList ≤ Console.Table.breadth laid

/-- The text of the user means nothing but itself where it is shown. Crates are spelled without
brackets, as identifiers are. -/
structure Displayable (a : FileAnalysis) : Prop where
  literal : Literal a.pasted.toList
  failed : ∀ error?, a.outcome = .error error? → a.pasted.toList.getLast? ≠ some '\\'
  titled : ∀ u, a.outcome = .ok u → u.normal ++ u.testOnly ≠ [] → Titles a.path.text u
  spelled : ∀ u, a.outcome = .ok u → ∀ name ∈ u.normal ++ u.testOnly, '[' ∉ name.toList

end FileAnalysis

namespace Report

open FileAnalysis

variable {a : FileAnalysis}

theorem failure_eq (text : String) :
    s!"[red]Error: {text}[/red]"
      = String.ofList (enclosed "red".toList ("Error: ".toList ++ text.toList)) :=
  String.toList_inj.mp (by simp [enclosed, tagged, toString])

theorem noCrates_eq (path : String) :
    s!"[yellow]No external crates found in {path}.[/yellow]"
      = String.ofList (enclosed "yellow".toList
          ("No external crates found in ".toList ++ (path.toList ++ ['.']))) :=
  String.toList_inj.mp (by simp [enclosed, tagged, toString])

theorem warning_eq (failed all : Nat) :
    s!"\n[yellow]Warning: {failed} of {all} file(s) " ++ "could not be analyzed[/yellow]"
      = String.ofList ("\n".toList ++ enclosed "yellow".toList ("Warning: ".toList
          ++ (toString failed).toList ++ " of ".toList ++ (toString all).toList
          ++ " file(s) could not be analyzed".toList)) :=
  String.toList_inj.mp (by simp [enclosed, tagged, toString])

theorem mem_notices {analyses : List FileAnalysis} {n : Notice} (ha : a ∈ analyses)
    (hn : n ∈ analysisNotices a) : n ∈ notices analyses := by
  cases analyses with
  | nil => cases ha
  | cons b analyses =>
    unfold notices
    rw [List.isEmpty_cons, if_neg Bool.false_ne_true]
    exact List.mem_append_left _ (List.mem_flatMap.mpr ⟨a, ha, hn⟩)

structure Shows (screen : Screen) (n : Notice) (lines : List String) : Prop where
  finishes : ∀ columns, ∃ some, n.lines columns screen = .ok some
  wide : ∃ enough, ∀ columns, enough ≤ columns → n.lines columns screen = .ok lines

section

variable {screen : Screen} (hscreen : screen.ReadsMarkup)

include hscreen

theorem shows_markup {text : String} {cs : List Char} (h : shown text = .ok cs) :
    Shows screen (.markup text) (((cs.splitOn '\n').map expandTabs).map String.ofList) :=
  ⟨hscreen.print_ok h, hscreen.print_wide h⟩

/-- A text without tabs loses nothing on a console that is wide enough. -/
theorem shows_literal {text : String} {cs : List Char} (h : shown text = .ok cs) (htab : '\t' ∉ cs) :
    ∃ lines, Shows screen (.markup text) lines ∧
      (CommandLine.linesText lines).toList = cs ++ ['\n'] := by
  refine ⟨_, shows_markup hscreen h, ?_⟩
  have hlines : (cs.splitOn '\n').map expandTabs = cs.splitOn '\n' := by
    refine (List.map_congr_left fun line hline => ?_).trans (List.map_id _)
    refine Console.expandTabs_of_not_mem fun hmem => ?_
    have hcs : '\t' ∈ cs ++ ['\n'] := by
      rw [← CommandLine.flatMap_splitOn]
      exact List.mem_flatMap.mpr ⟨line, hline, List.mem_append_left _ hmem⟩
    rcases List.mem_append.mp hcs with hcs | hcs
    · exact htab hcs
    · exact absurd hcs (by decide)
  rw [hlines, CommandLine.toList_linesText_splitOn]

theorem shows_failure {text : String} (h : Literal text.toList)
    (hlast : text.toList.getLast? ≠ some '\\') :
    ∃ lines, Shows screen (.markup s!"[red]Error: {text}[/red]") lines ∧
      (CommandLine.linesText lines).toList = ("Error: " ++ text).toList ++ ['\n'] := by
  have hword : "Error".toList.all isHarmless = true := by decide
  have hcs : Literal ("Error: ".toList ++ text.toList) := h.colonBlank.prepend hword
  rw [failure_eq, String.toList_append]
  exact shows_literal hscreen
    (hcs.shown_enclosed encloses_red (getLast?_append_ne (by decide) hlast))
    hcs.not_tab

theorem shows_noCrates {path : String} (h : Literal path.toList) :
    ∃ lines, Shows screen (.markup s!"[yellow]No external crates found in {path}.[/yellow]") lines ∧
      (CommandLine.linesText lines).toList
        = "No external crates found in ".toList ++ (path.toList ++ ['.']) ++ ['\n'] := by
  have hcs : Literal ("No external crates found in ".toList ++ (path.toList ++ ['.'])) :=
    h.dot.prepend (by decide)
  rw [noCrates_eq]
  refine shows_literal hscreen (hcs.shown_enclosed encloses_yellow
    (getLast?_append_ne (by decide) ?_)) hcs.not_tab
  simp

theorem shows_warning (failed all : Nat) :
    ∃ lines, Shows screen (.markup (s!"\n[yellow]Warning: {failed} of {all} file(s) "
      ++ "could not be analyzed[/yellow]")) lines := by
  have hfailed := bracket_not_mem_toString failed
  have hall := bracket_not_mem_toString all
  rw [warning_eq]
  refine ⟨_, shows_markup hscreen (shown_enclosed encloses_yellow
    (by decide) (by decide) (untagged_of_not_mem ?_) ?_)⟩
  · simp only [List.mem_append, not_or]
    exact ⟨⟨⟨⟨by decide, hfailed⟩, by decide⟩, hall⟩, by decide⟩
  · rw [List.getLast?_append, Option.or_of_isSome (by decide)]
    decide

theorem shows_titled {path : String} {u : Usage} (h : Literal path.toList) (ht : Titles path u)
    (hnames : ∀ name ∈ u.normal ++ u.testOnly, '[' ∉ name.toList) :
    ∃ lines, Shows screen (.table (table path u)) lines ∧
      path.toList <:+: (CommandLine.linesText lines).toList := by
  obtain ⟨laid, hlaid⟩ := exists_lay_table path hnames
  obtain ⟨enough, lines, hlines, line, hline, hinfix⟩ :=
    hscreen.draw_wide hlaid h.shown ht.oneLine h.not_tab ht.trimmed (ht.fits laid hlaid)
  exact ⟨lines, ⟨hscreen.draw_ok hlaid h.shown, enough, hlines⟩,
    CommandLine.infix_linesText_of_mem hline hinfix⟩

theorem shows_analysis (h : a.Displayable) :
    ∃ lines, List.Forall₂ (Shows screen) (analysisNotices a) lines ∧
      a.told.toList <:+: (CommandLine.linesText lines.flatten).toList := by
  obtain ⟨path, outcome⟩ := a
  cases outcome with
  | error error? =>
    obtain ⟨lines, hshows, htext⟩ := shows_failure hscreen h.literal (h.failed error? rfl)
    refine ⟨[lines], .cons hshows .nil, ?_⟩
    rw [List.flatten_singleton, htext]
    exact (List.prefix_append _ _).isInfix
  | ok u =>
    obtain ⟨cs, hhints⟩ := exists_shown_hintsText u.hints
    have hliteral : Literal path.text.toList := h.literal
    have hshows : ∃ lines, Shows screen (if u.normal.isEmpty && u.testOnly.isEmpty then
          Notice.markup s!"[yellow]No external crates found in {path.text}.[/yellow]"
        else .table (table path.text u)) lines ∧
        path.text.toList <:+: (CommandLine.linesText lines).toList := by
      split
      · obtain ⟨lines, hshows, htext⟩ := shows_noCrates hscreen hliteral
        refine ⟨lines, hshows, ?_⟩
        rw [htext]
        exact ⟨"No external crates found in ".toList, ['.', '\n'], by simp⟩
      · rename_i hcrates
        refine shows_titled hscreen hliteral (h.titled u rfl fun hnone => hcrates ?_) (h.spelled u rfl)
        simpa using hnone
    obtain ⟨lines, hshows, hinfix⟩ := hshows
    refine ⟨[lines, _], .cons hshows (.cons (shows_markup hscreen hhints) .nil), ?_⟩
    rw [List.flatten_cons, CommandLine.linesText_append, String.toList_append]
    exact hinfix.trans (List.prefix_append _ _).isInfix

/-- A notice whose markup is at fault is shown on no console. -/
theorem fails_analysis (h : Unopened a.pasted.toList) :
    ∃ n ∈ analysisNotices a, ∀ columns, ∃ f, n.lines columns screen = .error f := by
  have hmarkup : ∀ {text : String}, (∃ f, shown text = .error f) →
      ∀ columns, ∃ f, (Notice.markup text).lines columns screen = .error f := by
    rintro text ⟨f, hf⟩
    exact hscreen.print_error hf
  obtain ⟨path, outcome⟩ := a
  cases outcome with
  | error error? =>
    refine ⟨_, List.mem_singleton_self _, hmarkup ?_⟩
    rw [failure_eq, enclosed]
    exact shown_tagged_unopened encloses_red (by decide)
      ((h.behind (by decide) (by decide)).ahead _)
  | ok u =>
    have hpath : Unopened path.text.toList := h
    refine ⟨_, List.mem_cons_self, ?_⟩
    split
    · refine hmarkup ?_
      rw [noCrates_eq, enclosed]
      exact shown_tagged_unopened encloses_yellow (by decide)
        (((hpath.ahead _).behind (by decide) (by decide)).ahead _)
    · have htitle : path.text ≠ "" := by
        intro hempty
        rw [hempty] at hpath
        exact hpath.ne_nil rfl
      obtain ⟨f, hf⟩ := shown_unopened hpath
      rw [String.ofList_toList] at hf
      exact hscreen.draw_error htitle hf

theorem shows_analyses {analyses : List FileAnalysis} (h : ∀ a ∈ analyses, a.Displayable) :
    ∃ lines, List.Forall₂ (Shows screen) (analyses.flatMap analysisNotices) lines ∧
      ∀ a ∈ analyses, a.told.toList <:+: (CommandLine.linesText lines.flatten).toList := by
  induction analyses with
  | nil => exact ⟨[], .nil, List.forall_mem_nil _⟩
  | cons a analyses ih =>
    obtain ⟨ha, hrest⟩ := List.forall_mem_cons.mp h
    obtain ⟨lines, hshows, htold⟩ := shows_analysis hscreen ha
    obtain ⟨more, hmore, hall⟩ := ih hrest
    refine ⟨lines ++ more, List.rel_append hshows hmore, ?_⟩
    rw [List.flatten_append, CommandLine.linesText_append, String.toList_append]
    refine List.forall_mem_cons.mpr ⟨htold.trans (List.prefix_append _ _).isInfix, fun b hb => ?_⟩
    exact (hall b hb).trans (List.suffix_append _ _).isInfix

theorem shows_notices {analyses : List FileAnalysis} (h : ∀ a ∈ analyses, a.Displayable) :
    ∃ lines, List.Forall₂ (Shows screen) (notices analyses) lines ∧
      ∀ a ∈ analyses, a.told.toList <:+: (CommandLine.linesText lines.flatten).toList := by
  cases analyses with
  | nil =>
    have hnone : shown "[yellow]No files analyzed.[/yellow]" = .ok "No files analyzed.".toList := by
      decide +kernel
    exact ⟨[_], .cons (shows_markup hscreen hnone) .nil, List.forall_mem_nil _⟩
  | cons a analyses =>
    obtain ⟨lines, hshows, htold⟩ := shows_analyses hscreen h
    unfold notices
    rw [List.isEmpty_cons, if_neg Bool.false_ne_true]
    split
    · exact ⟨lines, by rwa [List.append_nil], htold⟩
    · obtain ⟨warning, hwarning⟩ := shows_warning hscreen
        ((a :: analyses).filter (!·.succeeded)).length (a :: analyses).length
      refine ⟨lines ++ [warning], List.rel_append hshows (.cons hwarning .nil), fun b hb => ?_⟩
      rw [List.flatten_append, CommandLine.linesText_append, String.toList_append]
      exact (htold b hb).trans (List.prefix_append _ _).isInfix

end

theorem finishes_of_shows {screen : Screen} {ns : List Notice} {lines : List (List String)}
    (h : List.Forall₂ (Shows screen) ns lines) (columns : Nat) :
    ∃ some, ns.mapM (Notice.lines columns · screen) = .ok some := by
  refine exists_mapM_ok ?_
  induction h with
  | nil => exact List.forall_mem_nil _
  | cons hn _ ih => exact List.forall_mem_cons.mpr ⟨hn.finishes columns, ih⟩

theorem wide_of_shows {screen : Screen} {ns : List Notice} {lines : List (List String)}
    (h : List.Forall₂ (Shows screen) ns lines) : ∃ enough, ∀ columns, enough ≤ columns →
      List.Forall₂ (fun n shown => n.lines columns screen = .ok shown) ns lines := by
  induction h with
  | nil => exact ⟨0, fun _ _ => .nil⟩
  | cons hn _ ih =>
    obtain ⟨first, hfirst⟩ := hn.wide
    obtain ⟨rest, hrest⟩ := ih
    refine ⟨max first rest, fun columns hcolumns => .cons (hfirst columns ?_) (hrest columns ?_)⟩
    · exact Nat.le_trans (Nat.le_max_left _ _) hcolumns
    · exact Nat.le_trans (Nat.le_max_right _ _) hcolumns

end Report

end CrateUsage
