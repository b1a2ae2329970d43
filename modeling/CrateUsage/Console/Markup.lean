import CrateUsage.Console.Emoji
import CrateUsage.Console.Style

namespace CrateUsage.Console.Markup

/-- A tag that closes nothing, and where it stands. -/
inductive Fault where
  | unmatched (tag : String) (position : Nat)
  | nothingOpen (position : Nat)
  deriving DecidableEq, Repr

def Fault.message : Fault → String
  | unmatched tag position =>
    s!"closing tag '{tag}' at position {position} doesn't match any open tag"
  | nothingOpen position => s!"closing tag '[/]' at position {position} has nothing to close"

inductive Piece where
  | text (cs : List Char)
  | tag (position : Nat) (body : List Char)
  deriving DecidableEq, Repr

def isTagStart (c : Char) : Bool := ('a' ≤ c && c ≤ 'z') || c = '#' || c = '/' || c = '@'

def isTagChar (c : Char) : Bool := c ≠ '[' && c ≠ ']'

def tag? : List Char → Option (List Char × List Char)
  | [] => none
  | c :: cs =>
    if isTagStart c then
      match cs.dropWhile isTagChar with
      | ']' :: rest => some (c :: cs.takeWhile isTagChar, rest)
      | _ => none
    else none

theorem length_lt_of_tag? {cs body rest : List Char} (h : tag? cs = some (body, rest)) :
    rest.length < cs.length := by
  cases cs with
  | nil => simp [tag?] at h
  | cons c cs =>
    simp only [tag?] at h
    split at h
    · split at h
      · rename_i tail heq
        obtain ⟨-, rfl⟩ : c :: cs.takeWhile isTagChar = body ∧ tail = rest := by simpa using h
        have := (List.dropWhile_sublist (l := cs) isTagChar).length_le
        simp only [heq, List.length_cons] at this ⊢
        omega
      · simp at h
    · simp at h

def plain : List Char → List Piece
  | [] => []
  | cs => [.text cs.reverse]

/-- The pieces of a text from a position on. Right before it are backslashes, and before those
plain text, of which the last comes first. Two backslashes before a tag stand for one, and a
single one makes the tag plain text. -/
def piecesFrom (position backslashes : Nat) (done : List Char) : List Char → List Piece
  | [] => plain (List.replicate backslashes '\\' ++ done)
  | c :: cs =>
    if c = '\\' then piecesFrom (position + 1) (backslashes + 1) done cs
    else
      match _h : if c = '[' then tag? cs else none with
      | some (body, rest) =>
        plain done ++ plain (List.replicate (backslashes / 2) '\\')
          ++ (if backslashes % 2 = 0 then .tag position body else .text ('[' :: body ++ [']']))
          :: piecesFrom (position + body.length + 2) 0 [] rest
      | none => piecesFrom (position + 1) 0 (c :: List.replicate backslashes '\\' ++ done) cs
termination_by cs => cs.length
decreasing_by
  · simp
  · split at _h
    · have := length_lt_of_tag? _h
      simp only [List.length_cons]
      omega
    · simp at _h
  · simp

def pieces (cs : List Char) : List Piece := piecesFrom 0 0 [] cs

def unescaped : List Char → List Char
  | [] => []
  | '\\' :: '[' :: cs => '[' :: unescaped cs
  | c :: cs => c :: unescaped cs

/-- What is open after a tag, the latest first. -/
def afterTag (position : Nat) (body : List Char) (opened : List String) :
    Except Fault (List String) :=
  let name := body.takeWhile (· ≠ '=')
  match name with
  | '/' :: closed =>
    if Text.trim closed = [] then
      match opened with
      | _ :: rest => .ok rest
      | [] => .error (.nothingOpen position)
    else if opened.contains (Style.canonical (Text.trim closed)) then
      .ok (opened.erase (Style.canonical (Text.trim closed)))
    else .error (.unmatched (String.ofList ('[' :: body ++ [']'])) position)
  | _ => .ok (Style.canonical name :: opened)

def textOf (opened : List String) : List Piece → Except Fault (List Char)
  | [] => .ok []
  | .text cs :: ps => do return Emoji.replace (unescaped cs) ++ (← textOf opened ps)
  | .tag position body :: ps => do textOf (← afterTag position body opened) ps

def isCursorControl (c : Char) : Bool :=
  c = '\x07' || c = '\x08' || c = '\x0b' || c = '\x0c' || c = '\x0d'

/-- What a screen shows of a text with markup. -/
def shown (s : String) : Except Fault (List Char) := do
  return (← textOf [] (pieces s.toList)).filter (!isCursorControl ·)

end CrateUsage.Console.Markup
