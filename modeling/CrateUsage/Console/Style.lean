import CrateUsage.Text.Ranges

namespace CrateUsage.Console

structure Style where
  attributes : List (String × Bool) := []
  color : Option String := none
  background : Option String := none
  link : Option String := none
  deriving DecidableEq, Repr

namespace Style

def attributeNames : List (String × List String) :=
  [("bold", ["b"]), ("dim", ["d"]), ("italic", ["i"]), ("underline", ["u"]), ("blink", []),
    ("blink2", []), ("reverse", ["r"]), ("conceal", ["c"]), ("strike", ["s"]),
    ("underline2", ["uu"]), ("frame", []), ("encircle", []), ("overline", ["o"])]

def attribute? (word : String) : Option String :=
  (attributeNames.find? fun (name, short) => name = word || short.contains word).map (·.1)

def colorNames : List String :=
  ["default", "black", "red", "green", "yellow", "blue", "magenta", "cyan", "white",
    "bright_black", "bright_red", "bright_green", "bright_yellow", "bright_blue",
    "bright_magenta", "bright_cyan", "bright_white"]

def isHexDigit (c : Char) : Bool := c.isDigit || ('a' ≤ c && c ≤ 'f')

/-- A colour has a name, six digits of base sixteen, or a number below 256. -/
def isColor (word : String) : Bool :=
  colorNames.contains word
    || match word.toList with
      | '#' :: digits => digits.length = 6 && digits.all isHexDigit
      | 'c' :: 'o' :: 'l' :: 'o' :: 'r' :: '(' :: rest =>
        match rest.takeWhile Char.isDigit, rest.dropWhile Char.isDigit with
        | c :: digits, [')'] => ((String.ofList (c :: digits)).toNat?).any (· < 256)
        | _, _ => false
      | _ => false

def lower (s : String) : String := s.map Char.toLower

/-- Reads the words of a style. A word that no style has makes the whole no style. -/
def ofWords (s : Style) : List String → Option Style
  | [] => some s
  | word :: words =>
    if lower word = "on" then
      match words with
      | color :: words =>
        if isColor (lower color) then ofWords { s with background := some (lower color) } words
        else none
      | [] => none
    else if lower word = "not" then
      match words with
      | name :: words =>
        match attribute? name with
        | some name => ofWords { s with attributes := (name, false) :: s.attributes } words
        | none => none
      | [] => none
    else if lower word = "link" then
      match words with
      | target :: words => ofWords { s with link := some target } words
      | [] => none
    else
      match attribute? (lower word) with
      | some name => ofWords { s with attributes := (name, true) :: s.attributes } words
      | none =>
        if isColor (lower word) then ofWords { s with color := some (lower word) } words else none

def describe (s : Style) : String :=
  let attributes := attributeNames.filterMap fun (name, _) =>
    (s.attributes.lookup name).map fun holds => if holds then name else s!"not {name}"
  let rest := s.color.toList ++ (s.background.map ("on " ++ ·)).toList
    ++ (s.link.map ("link " ++ ·)).toList
  if attributes.isEmpty && rest.isEmpty then "none" else " ".intercalate (attributes ++ rest)

/-- Two names of tags mean the same if this is the same for both. -/
def canonical (name : List Char) : String :=
  let words := (Text.words name).map String.ofList
  if words = ["none"] then "none"
  else
    match ofWords {} words with
    | some s => s.describe
    | none => lower (String.ofList (Text.trim name))

end Style
end CrateUsage.Console
