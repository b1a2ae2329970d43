import CrateUsage.Console.Table
import CrateUsage.Proofs.FirstCharacter
import Mathlib.Data.List.Forall2

namespace CrateUsage

section

variable {α β ε : Type} {f : α → Except ε β}

theorem exists_mapM_ok {xs : List α} (h : ∀ x ∈ xs, ∃ y, f x = .ok y) :
    ∃ ys, xs.mapM f = .ok ys := by
  induction xs with
  | nil => exact ⟨[], rfl⟩
  | cons x xs ih =>
    obtain ⟨⟨y, hy⟩, hxs⟩ := List.forall_mem_cons.mp h
    obtain ⟨ys, hys⟩ := ih hxs
    exact ⟨y :: ys, by rw [List.mapM_cons, hy, hys]; rfl⟩

theorem mapM_of_forall₂ {xs : List α} {ys : List β} (h : List.Forall₂ (fun x y => f x = .ok y) xs ys) :
    xs.mapM f = .ok ys := by
  induction h with
  | nil => rfl
  | cons hx _ ih =>
    rw [List.mapM_cons, hx, ih]
    rfl

/-- One failure is enough, though an earlier one may be the answer. -/
theorem exists_mapM_error {xs : List α} (h : ∃ x ∈ xs, ∃ e, f x = .error e) :
    ∃ e, xs.mapM f = .error e := by
  induction xs with
  | nil =>
    obtain ⟨x, hx, -⟩ := h
    cases hx
  | cons x xs ih =>
    rw [List.mapM_cons]
    cases hx : f x with
    | error e => exact ⟨e, rfl⟩
    | ok y =>
      obtain ⟨z, hz, e, he⟩ := h
      rcases List.mem_cons.mp hz with rfl | hz
      · cases hx.symm.trans he
      · obtain ⟨e, he⟩ := ih ⟨z, hz, e, he⟩
        exact ⟨e, by rw [he]; rfl⟩

end

namespace Console

open Text (trimEnd width)
open Markup (shown)

namespace Table

/-- How wide a table is: its columns with a character on either side of each, and the rules between
and around them. -/
def breadth (laid : List Laid) : Nat := ((laid.map Laid.width).map (· + 3)).foldl (· + ·) 1

theorem breadth_eq (laid : List Laid) :
    breadth laid = Text.total (laid.map fun l => l.width + 2) + laid.length + 1 := by
  have hfold : ∀ (laid : List Laid) (n : Nat), ((laid.map Laid.width).map (· + 3)).foldl (· + ·) n
      = Text.total (laid.map fun l => l.width + 2) + laid.length + n := by
    intro laid
    induction laid with
    | nil => simp
    | cons l laid ih =>
      intro n
      simp only [List.map_cons, List.foldl_cons, ih, Text.total_cons, List.length_cons]
      omega
  exact hfold laid 1

theorem exists_lay {t : Table} (hcolumns : ∀ c ∈ t.columns, ∃ cs, shown c.header = .ok cs)
    (hrows : ∀ row ∈ t.rows, ∀ cell ∈ row, ∃ cs, cell.shown = .ok cs) :
    ∃ laid, t.lay = .ok laid := by
  have hblank : ∃ cs, (Cell.markup "").shown = .ok cs :=
    ⟨_, Markup.shown_of_untagged Markup.untagged_nil⟩
  refine exists_mapM_ok fun (column, i) hcolumn => ?_
  have hcells : ∀ cell ∈ Cell.markup column.header :: t.rows.map (·.getD i (.markup "")),
      ∃ cs, cell.shown = .ok cs := by
    refine List.forall_mem_cons.mpr ⟨hcolumns column ?_, ?_⟩
    · exact List.fst_mem_of_mem_zipIdx hcolumn
    · intro cell hcell
      obtain ⟨row, hrow, rfl⟩ := List.mem_map.mp hcell
      rw [List.getD_eq_getElem?_getD]
      cases hget : row[i]? with
      | none => exact hblank
      | some cell => exact hrows row hrow cell (List.mem_of_getElem? hget)
  obtain ⟨texts, htexts⟩ := exists_mapM_ok hcells
  refine ⟨⟨column, texts⟩, ?_⟩
  change (do let texts ← List.mapM Cell.shown _; _) = _
  rw [htexts]
  rfl

/-- A table that fits has the widths that its columns ask for. -/
theorem widths_of_breadth_le {columns : Nat} {laid : List Laid} (h : breadth laid ≤ columns) :
    widths (columns - (laid.length + 1)) laid = laid.map fun l => l.width + 2 := by
  rw [breadth_eq] at h
  generalize havailable : columns - (laid.length + 1) = available
  have hsum : Text.total (laid.map fun l => l.width + 2) ≤ available := by omega
  have hspan : ∀ l ∈ laid, (l.span available).width = l.width + 2 := by
    intro l hl
    have hmem : l.width + 2 ∈ laid.map fun l => l.width + 2 :=
      List.mem_map_of_mem (f := fun l => l.width + 2) hl
    have hle := Text.le_total_of_mem hmem
    rw [Laid.span]
    dsimp only
    rw [if_neg (by omega), Nat.min_eq_left (by omega)]
  have hwidths : (laid.map (·.span available)).map (·.width) = laid.map fun l => l.width + 2 := by
    rw [List.map_map]
    exact List.map_congr_left hspan
  rw [widths, Span.fit, if_pos (by rwa [Span.total, hwidths]), hwidths]

theorem draw_eq {t : Table} {laid : List Laid} {title : List (List Char)} {columns : Nat}
    (hlay : t.lay = .ok laid)
    (htitle : titleLines t.title (Text.total (widths (columns - (laid.length + 1)) laid)
      + laid.length + 1) = .ok title) :
    t.draw columns = .ok ((title ++ drawRows laid (widths (columns - (laid.length + 1)) laid)
      t.rows.length).map fun line => String.ofList (cut columns line)) := by
  rw [draw, hlay]
  change (titleLines _ _ >>= _) = _
  rw [htitle]
  rfl

theorem draw_error {t : Table} {f : Markup.Fault} (ht : t.title ≠ "")
    (h : shown t.title = .error f) (columns : Nat) : ∃ g, t.draw columns = .error g := by
  rw [draw]
  cases t.lay with
  | error g => exact ⟨g, rfl⟩
  | ok laid =>
    refine ⟨f, ?_⟩
    simp only [titleLines, if_neg ht, h]
    rfl

theorem titleLines_of_shown {title : String} {cs : List Char} (h : shown title = .ok cs)
    (columns : Nat) : ∃ lines, titleLines title columns = .ok lines := by
  rw [titleLines]
  split
  · exact ⟨[], rfl⟩
  · rw [h]
    exact ⟨_, rfl⟩

/-- A title that fits stands on one line, in the middle of the table. -/
theorem titleLines_oneLine {title : String} {cs : List Char} {columns : Nat}
    (h : shown title = .ok cs) (hfeed : '\n' ∉ cs) (htab : '\t' ∉ cs)
    (htrim : trimEnd cs = cs) (hwidth : width cs ≤ columns) :
    ∃ lines, titleLines title columns = .ok lines ∧ (cs = [] ∨ ∃ line ∈ lines, cs <:+: line) := by
  rw [titleLines]
  split
  · rename_i hempty
    rw [hempty] at h
    have hnone : shown "" = .ok [] := by decide +kernel
    rw [hnone] at h
    exact ⟨[], rfl, .inl (Except.ok.inj h).symm⟩
  · refine ⟨[align .center columns cs], ?_, .inr ⟨_, List.mem_singleton_self _, ?_⟩⟩
    · rw [h]
      change Except.ok ((wrap columns cs).map _) = _
      rw [wrap_of_width_le hfeed htab hwidth htrim]
      rfl
    · rw [align, htrim, shorten, if_pos hwidth]
      exact ⟨_, _, rfl⟩

end Table

/-- What is asked of a screen. It reads texts, and the titles of tables, as markup, and shows nothing
where they are at fault. Where it is wide enough it shows the lines of a text as they are, and a
title on one line of a table that is as wide as its texts. -/
structure Screen.ReadsMarkup (screen : Screen) : Prop where
  print_error : ∀ {s f}, shown s = .error f → ∀ columns, ∃ g, screen.print columns s = .error g
  print_ok : ∀ {s cs}, shown s = .ok cs → ∀ columns, ∃ lines, screen.print columns s = .ok lines
  print_wide : ∀ {s cs}, shown s = .ok cs → ∃ enough, ∀ columns, enough ≤ columns →
    screen.print columns s = .ok (((cs.splitOn '\n').map expandTabs).map String.ofList)
  print_head : ∀ {s c cs}, shown s = .ok (c :: cs) → IsPlain c → ∀ {columns lines},
    0 < columns → screen.print columns s = .ok lines →
      ∃ line more, lines = String.ofList (c :: line) :: more
  draw_error : ∀ {t : Table} {f}, t.title ≠ "" → shown t.title = .error f →
    ∀ columns, ∃ g, screen.draw columns t = .error g
  draw_ok : ∀ {t : Table} {laid cs}, t.lay = .ok laid → shown t.title = .ok cs →
    ∀ columns, ∃ lines, screen.draw columns t = .ok lines
  draw_wide : ∀ {t : Table} {laid cs}, t.lay = .ok laid → shown t.title = .ok cs →
    '\n' ∉ cs → '\t' ∉ cs → trimEnd cs = cs → width cs ≤ Table.breadth laid →
      ∃ enough lines, (∀ columns, enough ≤ columns → screen.draw columns t = .ok lines) ∧
        ∃ line ∈ lines, cs <:+: line.toList

/-- No line is cut where there is room for the widest. -/
theorem exists_cut_eq (lines : List (List Char)) :
    ∃ enough, ∀ columns, enough ≤ columns → ∀ line ∈ lines, cut columns line = line := by
  induction lines with
  | nil => exact ⟨0, fun _ _ => List.forall_mem_nil _⟩
  | cons line lines ih =>
    obtain ⟨enough, henough⟩ := ih
    refine ⟨max enough (width line), fun columns hcolumns => List.forall_mem_cons.mpr ⟨?_, ?_⟩⟩
    · rw [cut, if_pos (by omega)]
    · exact henough columns (by omega)

theorem Table.draw_wide {t : Table} {laid : List Laid} {cs : List Char} (hlay : t.lay = .ok laid)
    (h : shown t.title = .ok cs) (hfeed : '\n' ∉ cs) (htab : '\t' ∉ cs)
    (htrim : trimEnd cs = cs) (hwidth : width cs ≤ breadth laid) :
    ∃ enough lines, (∀ columns, enough ≤ columns → t.draw columns = .ok lines) ∧
      ∃ line ∈ lines, cs <:+: line.toList := by
  rw [breadth_eq] at hwidth
  obtain ⟨title, htitle, hcs⟩ := titleLines_oneLine h hfeed htab htrim hwidth
  let rows := drawRows laid (laid.map fun l => l.width + 2) t.rows.length
  obtain ⟨enough, hcut⟩ := exists_cut_eq (title ++ rows)
  refine ⟨max enough (breadth laid), (title ++ rows).map String.ofList, fun columns hcolumns => ?_,
    ?_⟩
  · have hwidths := widths_of_breadth_le (by omega : breadth laid ≤ columns)
    rw [draw_eq hlay (by rwa [hwidths]), hwidths]
    refine congrArg Except.ok (List.map_congr_left fun line hline => ?_)
    rw [hcut columns (by omega) line hline]
  · have hline : ∃ line ∈ title ++ rows, cs <:+: line := by
      rcases hcs with rfl | ⟨line, hline, hinfix⟩
      · -- A table without a title still has its rules.
        have htop : Rule.top.across (laid.map fun l => l.width + 2) ∈ rows := by
          simp [rows, drawRows]
        exact ⟨_, List.mem_append_right _ htop, List.nil_infix⟩
      · exact ⟨line, List.mem_append_left _ hline, hinfix⟩
    obtain ⟨line, hline, hinfix⟩ := hline
    exact ⟨_, List.mem_map_of_mem hline, by rwa [String.toList_ofList]⟩

theorem print_of_shown {s : String} {cs : List Char} (h : shown s = .ok cs) (columns : Nat) :
    print columns s = .ok ((wrap columns cs).map String.ofList) := by
  rw [print, h]
  rfl

theorem readsMarkup_screen : screen.ReadsMarkup where
  print_error {s f} h columns := by
    refine ⟨f, ?_⟩
    change print columns s = _
    rw [print, h]
    rfl
  print_ok h columns := ⟨_, print_of_shown h columns⟩
  print_wide {s cs} h := by
    obtain ⟨enough, henough⟩ := exists_wrap_eq cs
    refine ⟨enough, fun columns hcolumns => ?_⟩
    rw [← henough columns hcolumns]
    exact print_of_shown h columns
  print_head {s c cs} h hc {columns lines} hcolumns hprint := by
    obtain ⟨line, more, hwrap⟩ := hc.wrap hcolumns cs
    obtain rfl := Except.ok.inj (hprint.symm.trans (print_of_shown h columns))
    exact ⟨line, more.map String.ofList, by rw [hwrap, List.map_cons]⟩
  draw_error ht h := Table.draw_error ht h
  draw_ok hlay h columns := by
    obtain ⟨title, htitle⟩ := Table.titleLines_of_shown h _
    exact ⟨_, Table.draw_eq hlay htitle⟩
  draw_wide := Table.draw_wide

end Console
end CrateUsage
