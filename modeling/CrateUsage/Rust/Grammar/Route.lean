import CrateUsage.Rust.Rule

namespace CrateUsage.Rust

/-- The rules that call each other. Each stands for itself as applied to a smaller part of the
text. Where a flag forbids it, an open brace does not continue an expression: it begins the body
of the construct around it. -/
structure Rules where
  type : Rule Pieces
  plainType : Rule Pieces
  typeArguments : Rule Pieces
  pattern : Rule Pieces
  plainPattern : Rule Pieces
  expression : (beforeBody : Bool) → (min : Nat) → Rule Pieces
  primary : (beforeBody : Bool) → Rule Pieces
  ifExpression : Rule Pieces
  block : Rule Pieces
  tokenTree : Rule Pieces
  macroTree : Rule Pieces
  macroPattern : Rule Pieces
  declaration : Rule Pieces
  useTree : Rule Pieces

def Rules.none : Rules where
  type := .reject
  plainType := .reject
  typeArguments := .reject
  pattern := .reject
  plainPattern := .reject
  expression _ _ := .reject
  primary _ := .reject
  ifExpression := .reject
  block := .reject
  tokenTree := .reject
  macroTree := .reject
  macroPattern := .reject
  declaration := .reject
  useTree := .reject

def Token.as (t : Token) (kind : Kind) : Piece := .leaf kind true none t.trivia t.lexeme

def primitiveTypes : List String := Scan.numericTypes ++ ["bool", "str", "char"]

/-- Words that are names wherever no construct of theirs begins. -/
def reservedNames : List String := ["default", "union", "gen", "raw"]

/-- A path as far as it is read. What its last segment is called hangs on what follows. -/
inductive Route where
  | word (t : Token)
  /-- `self`, `super`, `crate` or a metavariable. -/
  | lead (t : Token) (kind : Kind)
  | bracketed (ps : Pieces)
  | member (path : Pieces) (t : Token)
  /-- Generic arguments behind `::`. -/
  | applied (base : Route) (arguments : Pieces)
  /-- A generic type without `::`, which stands in types only. -/
  | generic (ps : Pieces)
  | belowGeneric (path : Pieces) (t : Token)

namespace Route

def group (kind : Kind) (parts : Pieces) : Pieces := [.group kind none parts]

def inField (name : String) (ps : Pieces) : Pieces := ps.map (·.inField name)

def nameOf (t : Token) : Pieces :=
  inField "name" [t.as (if t.text = "super" then .superWord else .identifier)]

def path : Route → Pieces
  | word t => [t.as .identifier]
  | lead t kind => [t.as kind]
  | bracketed ps | generic ps => ps
  | member p t | belowGeneric p t => group .scopedIdentifier (p ++ nameOf t)
  | applied base arguments =>
    let type := match base with
      | word t => [t.as .typeIdentifier]
      | base => base.path
    group .genericType (inField "type" type ++ arguments)

def type : Route → Pieces
  | word t => [t.as .typeIdentifier]
  | member p t | belowGeneric p t =>
    group .scopedTypeIdentifier (p ++ inField "name" [t.as .typeIdentifier])
  | r => r.path

/-- A segment may follow, generic arguments behind `::` may follow. -/
def isName : Route → Bool
  | word _ | member .. => true
  | _ => false

end Route

namespace Grammar

open Rule

def lifetime : Rule Pieces := node "lifetime" [mark "'", identifier]

def mutSpecifier : Rule Pieces := do
  if ← atWord "mut" then leaf (.other "mutable_specifier") true else reject

def optMut : Rule Pieces := ifWord "mut" mutSpecifier

def leadKind (t : Token) : Option Kind :=
  if t.shape == some .metavariable then some .metavariable
  else if t.isWord "self" then some .selfWord
  else if t.isWord "super" then some .superWord
  else if t.isWord "crate" then some .crateWord
  else none

def bracketedType (r : Rules) : Rule Pieces := do
  let opening ← mark "<"
  let t ← r.type
  let inner ←
    if ← atWord "as" then
      node "qualified_type" [pure (Route.inField "type" t), keyword "as", field "alias" r.type]
    else pure t
  let close ← mark ">"
  return [.group (.other "bracketed_type") none (opening ++ inner ++ close)]

def wordToken : Rule Token := do
  if ← look (·.atAnyWord) then next else reject

def routeHead (r : Rules) : Rule Route := do
  let c ← get
  if c.at_ "::" then return .member (← mark "::") (← wordToken)
  else if c.at_ "<" then return .bracketed (← bracketedType r)
  else
    match leadKind c.next with
    | some kind => return .lead (← next) kind
    | none => return .word (← wordToken)

def atSegment (c : Cursor) : Bool :=
  c.spells "::" && ((c.token 2).shape == some .word || (c.token 2).isMark '<')

def turbofish (r : Rules) : Rule Pieces :=
  parts [mark "::", field "type_arguments" r.typeArguments]

def segment (r : Rules) (route : Route) : Rule Route := do
  if (← look (·.token 2)).isMark '<' then
    if route.isName then return .applied route (← turbofish r) else reject
  else
    match route with
    | .generic ps => return .belowGeneric (Route.inField "path" ps ++ (← mark "::")) (← wordToken)
    | .belowGeneric .. => reject
    | route => return .member (Route.inField "path" route.path ++ (← mark "::")) (← wordToken)

def segmentsUpTo (r : Rules) : Nat → Route → Rule Route
  | 0, _ => reject
  | n + 1, route => do
    if ← look atSegment then segmentsUpTo r n (← segment r route) else return route

def route (r : Rules) : Rule Route := do
  let head ← routeHead r
  bounded fun n => segmentsUpTo r n head

/-- A path that stands for itself, as in attributes and visibilities. -/
def simplePath (r : Rules) : Rule Pieces := do
  match ← route r with
  | .bracketed _ | .applied .. => reject
  | route => return route.path

end Grammar
end CrateUsage.Rust
