import CrateUsage.Console.Markup
import CrateUsage.Text.Cells

namespace CrateUsage.Console

open Text (isSpace trimEnd width)

/-- A tab goes on to the next column whose number is a multiple of eight. -/
def expandTabsFrom (start : Nat) : List (List Char) → List Char
  | [] => []
  | [last] => last
  | part :: parts =>
    let stop := start + width part
    let next := (stop / 8 + 1) * 8
    part ++ List.replicate (next - stop) ' ' ++ expandTabsFrom next parts

def expandTabs (line : List Char) : List Char := expandTabsFrom 0 (line.splitOn '\t')

/-- The words of a line with the blanks after them. Blanks before the first belong to it. A line
of blanks has no words. -/
def spacedWords (line : List Char) : List (List Char) :=
  let lead := line.takeWhile isSpace
  let starts := (line.dropWhile isSpace).splitBy fun a b => !isSpace a || isSpace b
  match starts with
  | [] => []
  | first :: rest => (lead ++ first) :: rest

def chopFrom (columns : Nat) (line : List Char) (used : Nat) :
    List (Char × Nat) → List (List Char)
  | [] => if line.isEmpty then [] else [line.reverse]
  | (c, n) :: cs =>
    if columns < used + n then line.reverse :: chopFrom columns [c] n cs
    else chopFrom columns (c :: line) (used + n) cs

def chop (columns : Nat) (cs : List Char) : List (List Char) :=
  chopFrom columns [] 0 (Text.cells cs)

/-- Lines that are done, the last first, and the line that takes the next word. -/
structure Filling where
  done : List (List Char) := []
  line : List Char := []
  used : Nat := 0

namespace Filling

/-- A word goes where it fits without the blanks after it. One that fits on no line starts on its
own and is cut. -/
def add (columns : Nat) (f : Filling) (word : List Char) : Filling :=
  let needed := width (trimEnd word)
  if f.used + needed ≤ columns then
    { f with line := f.line ++ word, used := f.used + width word }
  else if needed ≤ columns then
    { done := f.line :: f.done, line := word, used := width word }
  else
    match (chop columns word).reverse with
    | [] => f
    | last :: earlier =>
      { done := earlier ++ if f.line.isEmpty then f.done else f.line :: f.done
        line := last
        used := width last }

def place (columns : Nat) (f : Filling) (word : List Char) : Filling :=
  if f.used + width (trimEnd word) ≤ columns || f.line.isEmpty then
    { f with line := f.line ++ word, used := f.used + width word }
  else { done := f.line :: f.done, line := word, used := width word }

def lines (f : Filling) : List (List Char) := (f.line :: f.done).reverse

end Filling

def breakLine (add : Filling → List Char → Filling) (line : List Char) : List (List Char) :=
  match spacedWords line with
  | [] => [line]
  | words => (words.foldl add {}).lines

/-- Drops blanks at the end of a line, as many as it has characters beyond the width. -/
def dropExcess (columns : Nat) (line : List Char) : List Char :=
  let blanks := (line.reverse.takeWhile isSpace).length
  line.take (line.length - min blanks (line.length - columns))

/-- What fits into a width. Half of a wide character is left blank. -/
def takeCells : Nat → List (Char × Nat) → List Char
  | _, [] => []
  | room, (c, n) :: cs =>
    if n ≤ room then c :: takeCells (room - n) cs else List.replicate room ' '

def cut (columns : Nat) (line : List Char) : List Char :=
  if width line ≤ columns then line else takeCells columns (Text.cells line)

def wrap (columns : Nat) (cs : List Char) : List (List Char) :=
  (cs.splitOn '\n').flatMap fun line =>
    (breakLine (Filling.add columns) (expandTabs line)).map fun part =>
      cut columns (dropExcess columns part)

def print (columns : Nat) (s : String) : Except Markup.Fault (List String) := do
  return (wrap columns (← Markup.shown s)).map String.ofList

end CrateUsage.Console
