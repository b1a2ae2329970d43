import CrateUsage.Console.Wrap

namespace CrateUsage.Console

open Text (trimEnd width)

inductive Alignment where
  | left
  | center
  | right
  deriving DecidableEq, Repr

def Alignment.name : Alignment → String
  | left => "left"
  | center => "center"
  | right => "right"

inductive Cell where
  | markup (text : String)
  | styled (text style : String)
  deriving DecidableEq, Repr

structure Column where
  header : String
  style : String := ""
  alignment : Alignment := .left
  wraps : Bool := true
  deriving DecidableEq, Repr

structure Table where
  title : String
  columns : List Column
  rows : List (List Cell)
  deriving DecidableEq, Repr

def Cell.shown : Cell → Except Markup.Fault (List Char)
  | markup text => Markup.shown text
  | styled text _ => .ok text.toList

def shorten (columns : Nat) (line : List Char) : List Char :=
  if width line ≤ columns then line else takeCells (columns - 1) (Text.cells line) ++ ['…']

/-- A line among blanks, as wide as asked for. In the centre the odd blank goes to the right. -/
def align (alignment : Alignment) (columns : Nat) (line : List Char) : List Char :=
  let line := match alignment with
    | .left => line
    | _ => trimEnd line
  let line := shorten columns line
  let room := columns - width line
  let before := match alignment with
    | .left => 0
    | .center => room / 2
    | .right => room
  List.replicate before ' ' ++ line ++ List.replicate (room - before) ' '

structure Rule where
  left : Char
  fill : Char
  between : Char
  right : Char

namespace Rule

def top : Rule := ⟨'┏', '━', '┳', '┓'⟩
def header : Rule := ⟨'┃', ' ', '┃', '┃'⟩
def underHeader : Rule := ⟨'┡', '━', '╇', '┩'⟩
def body : Rule := ⟨'│', ' ', '│', '│'⟩
def bottom : Rule := ⟨'└', '─', '┴', '┘'⟩

def through (r : Rule) (texts : List (List Char)) : List Char :=
  r.left :: List.intercalate [r.between] texts ++ [r.right]

def across (r : Rule) (widths : List Nat) : List Char :=
  r.through (widths.map fun n => List.replicate n r.fill)

end Rule

/-- The room of a column, and whether its texts may go on in a further line. -/
structure Span where
  width : Nat
  wraps : Bool

namespace Span

def total (spans : List Span) : Nat := Text.total (spans.map (·.width))

/-- A part of a number, to the nearest whole. A half goes to the even side. -/
def share (number parts : Nat) : Nat :=
  let whole := number / parts
  let rest := number % parts
  if parts < 2 * rest || (2 * rest = parts && whole % 2 = 1) then whole + 1 else whole

def givers (limited : List (Span × Nat)) : Nat := limited.countP (0 < ·.2)

/-- Takes cells away from columns, each with what it can give at most. Those that give anything take
equal parts of what is left. -/
def reduce (excess givers : Nat) : List (Span × Nat) → List Span
  | [] => []
  | (s, limit) :: rest =>
    if limit = 0 then s :: reduce excess givers rest
    else
      let given := min limit (share excess givers)
      { s with width := s.width - given } :: reduce (excess - given) (givers - 1) rest

/-- Of the columns that wrap, the widest come down to the next in one go. -/
def limit (excess : Nat) (spans : List Span) (s : Span) : Nat :=
  let widths := (spans.filter (·.wraps)).map (·.width)
  let widest := widths.foldl max 0
  let next := (widths.filter (· ≠ widest)).foldl max 0
  if s.wraps && s.width = widest then min excess (widest - next) else 0

theorem limit_le (excess : Nat) (spans : List Span) (s : Span) :
    limit excess spans s ≤ s.width ∧ limit excess spans s ≤ excess := by
  simp only [limit]
  split
  · rename_i h
    simp only [Bool.and_eq_true, decide_eq_true_eq] at h
    omega
  · omega

theorem share_one (number : Nat) : share number 1 = number := by simp [share, Nat.mod_one]

theorem total_reduce_le (excess givers : Nat) (limited : List (Span × Nat)) :
    total (reduce excess givers limited) ≤ total (limited.map (·.1)) := by
  fun_induction reduce excess givers limited with
  | case1 => simp
  | case2 excess givers s rest ih => simpa [total] using ih
  | case3 excess givers s limit rest h given ih =>
    simp only [total, List.map_cons, Text.total_cons] at ih ⊢
    omega

/-- Some giver gives: the last of them is asked for all that is left. -/
theorem total_reduce_lt {excess : Nat} (he : 0 < excess) {limited : List (Span × Nat)}
    (hg : 0 < givers limited) (hl : ∀ p ∈ limited, p.2 ≤ p.1.width) :
    total (reduce excess (givers limited) limited) < total (limited.map (·.1)) := by
  induction limited with
  | nil => simp [givers] at hg
  | cons p rest ih =>
    obtain ⟨s, limit⟩ := p
    obtain ⟨hlimit, hrest⟩ := List.forall_mem_cons.mp hl
    have hlimit : limit ≤ s.width := hlimit
    rw [reduce]
    split
    · rename_i hzero
      have hsame : givers ((s, limit) :: rest) = givers rest := by simp [givers, hzero]
      rw [hsame] at hg ⊢
      have := ih hg hrest
      simp only [total, List.map_cons, Text.total_cons] at this ⊢
      omega
    · rename_i hpos
      have hmore : givers ((s, limit) :: rest) = givers rest + 1 := by
        simp [givers, Nat.pos_of_ne_zero hpos]
      rw [hmore, Nat.add_sub_cancel]
      have hle := total_reduce_le (excess - min limit (share excess (givers rest + 1)))
        (givers rest) rest
      simp only [total, List.map_cons, Text.total_cons] at hle ⊢
      rcases Nat.eq_zero_or_pos (share excess (givers rest + 1)) with hshare | hshare
      · have hothers : 0 < givers rest := by
          refine Nat.pos_of_ne_zero fun hnone => ?_
          rw [hnone, share_one] at hshare
          omega
        have := ih hothers hrest
        simp only [total] at this
        rw [hshare, Nat.min_zero, Nat.sub_zero, Nat.sub_zero]
        omega
      · omega

/-- The columns give way, the widest first, until they fit or none is left to give way. -/
def shrink (available : Nat) (spans : List Span) : List Span :=
  let excess := total spans - available
  let limited := spans.map fun s => (s, limit excess spans s)
  if givers limited = 0 then spans else shrink available (reduce excess (givers limited) limited)
termination_by total spans
decreasing_by
  rename_i hgivers
  obtain ⟨p, hp, hpos⟩ := List.countP_pos_iff.mp (Nat.pos_of_ne_zero hgivers)
  obtain ⟨s, -, rfl⟩ := List.mem_map.mp hp
  have hexcess := Nat.lt_of_lt_of_le (of_decide_eq_true hpos) (limit_le excess spans s).2
  have hless := total_reduce_lt hexcess (Nat.pos_of_ne_zero hgivers) fun q hq => by
    obtain ⟨s, -, rfl⟩ := List.mem_map.mp hq
    exact (limit_le excess spans s).1
  have hsame : limited.map (·.1) = spans := by simp [limited, Function.comp_def]
  rwa [hsame] at hless

def fit (available : Nat) (spans : List Span) : List Span :=
  if total spans ≤ available then spans
  else
    let limited := (shrink available spans).map fun s => (s, s.width)
    reduce (total (limited.map (·.1)) - available) (givers limited) limited

end Span

namespace Table

structure Laid where
  column : Column
  texts : List (List Char)

namespace Laid

def width (l : Laid) : Nat :=
  ((l.texts.flatMap (·.splitOn '\n')).map Text.width).foldl max 0

def span (available : Nat) (l : Laid) : Span :=
  { width := if available = 0 then 1 else min (l.width + 2) available, wraps := l.column.wraps }

/-- A text as lines that fill a column. One without room for more than blanks has none. -/
def cell (l : Laid) (width : Nat) (text : List Char) : List (List Char) :=
  if width ≤ 2 then []
  else
    let room := width - 2
    let lines := (text.splitOn '\n').flatMap fun line =>
      if l.column.wraps then breakLine (Filling.place room) (expandTabs line)
      else [expandTabs line]
    lines.map fun line => ' ' :: align l.column.alignment room (dropExcess room line) ++ [' ']

end Laid

def lay (t : Table) : Except Markup.Fault (List Laid) :=
  t.columns.zipIdx.mapM fun (column, i) => do
    let cells := Cell.markup column.header :: t.rows.map (·.getD i (.markup ""))
    return ⟨column, ← cells.mapM Cell.shown⟩

/-- One row of blocks of lines, each with its width. A block that is lower than another is filled up
with blanks, below it or, in a header, above it. -/
def drawRow (rule : Rule) (isHeader : Bool) (blocks : List (Nat × List (List Char))) :
    List (List Char) :=
  let height := (blocks.map (·.2.length)).foldl max 1
  let filled := blocks.map fun (n, lines) =>
    let blanks := List.replicate (height - lines.length) (List.replicate n ' ')
    if isHeader then blanks ++ lines else lines ++ blanks
  (List.range height).map fun i => rule.through (filled.map (·.getD i []))

def titleLines (title : String) (columns : Nat) : Except Markup.Fault (List (List Char)) :=
  if title = "" then .ok []
  else do return (wrap columns (← Markup.shown title)).map (align .center columns)

def widths (available : Nat) (laid : List Laid) : List Nat :=
  (Span.fit available (laid.map (·.span available))).map (·.width)

def drawRows (laid : List Laid) (widths : List Nat) (rows : Nat) : List (List Char) :=
  let row (i : Nat) : List (Nat × List (List Char)) :=
    (laid.zip widths).map fun (l, n) => (n, l.cell n (l.texts.getD i []))
  [Rule.top.across widths]
    ++ drawRow .header true (row 0)
    ++ [Rule.underHeader.across widths]
    ++ ((List.range rows).flatMap fun i => drawRow .body false (row (i + 1)))
    ++ [Rule.bottom.across widths]

/-- The lines of a table: its title in the centre, and below it the rows. Where the screen ends, they
are cut. -/
def draw (columns : Nat) (t : Table) : Except Markup.Fault (List String) := do
  let laid ← t.lay
  let widths := widths (columns - (laid.length + 1)) laid
  let title ← titleLines t.title (Text.total widths + laid.length + 1)
  let lines := title ++ drawRows laid widths t.rows.length
  return lines.map fun line => String.ofList (cut columns line)

end Table

/-- What shows texts with markup, and tables, on a number of columns, at least one. -/
structure Screen where
  print : Nat → String → Except Markup.Fault (List String)
  draw : Nat → Table → Except Markup.Fault (List String)

def screen : Screen := ⟨print, Table.draw⟩

end CrateUsage.Console
