namespace CrateUsage

/-- A path in normal form: the slashes that lead it, and the names between the others. -/
structure FilePath where
  slashes : Nat := 0
  names : List String
  deriving DecidableEq, Repr

namespace FilePath

/-- Two slashes before a path differ from one. More than two say no more than one. -/
def leadingSlashes (cs : List Char) : Nat :=
  match (cs.takeWhile (· = '/')).length with
  | 0 => 0
  | 2 => 2
  | _ => 1

/-- A slash at the end, a slash after a slash and a name of a single dot lead nowhere new. -/
def ofString (s : String) : FilePath :=
  { slashes := leadingSlashes s.toList
    names := ((s.toList.splitOn '/').map String.ofList).filter fun name => name ≠ "" && name ≠ "." }

def text (p : FilePath) : String :=
  if p.slashes = 0 && p.names.isEmpty then "."
  else String.ofList (List.replicate p.slashes '/') ++ "/".intercalate p.names

def name (p : FilePath) : String := p.names.getLastD ""

/-- The end of the last name, from its last dot on. A dot at either end of a name marks none. -/
def extension? (p : FilePath) : Option String :=
  let cs := p.name.toList.reverse
  match cs.takeWhile (· ≠ '.'), cs.dropWhile (· ≠ '.') with
  | c :: ending, _ :: _ :: _ => some (String.ofList ('.' :: (c :: ending).reverse))
  | _, _ => none

def hasNull (p : FilePath) : Bool := p.names.any (·.toList.contains '\x00')

end FilePath
end CrateUsage
