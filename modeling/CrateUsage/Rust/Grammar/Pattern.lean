import CrateUsage.Rust.Grammar.Type

namespace CrateUsage.Rust.Grammar

open Rule

def negativeLiteral : Rule Pieces := node "negative_literal" [mark "-", literal]

def constBlock (r : Rules) : Rule Pieces :=
  node "const_block" [keyword "const", field "body" r.block]

def rangeEnd (r : Rules) : Rule Pieces := do
  let c ← get
  if c.at_ "-" then negativeLiteral
  else if isLiteral c.next then literal
  else return (← route r).path

def startsRangeEnd (c : Cursor) : Bool :=
  c.at_ "-" || c.at_ "::" || c.at_ "<" || isLiteral c.next || c.next.shape == some .metavariable
    || (c.atAnyWord && !c.atWord "if")

def atDots (c : Cursor) : Bool := c.spells ".."

def rangeDots : Rule Pieces := do
  let c ← get
  if c.spells "..." then mark "..." else if c.spells "..=" then mark "..=" else mark ".."

def rangeFrom (r : Rules) (left : Pieces) : Rule Pieces := do
  let isOpen ← look fun c => !c.spells "..." && !c.spells "..="
  node "range_pattern" [pure (Route.inField "left" left), rangeDots,
    when_ (fun c => !isOpen || startsRangeEnd c) (field "right" (rangeEnd r))]

def fieldPattern (r : Rules) : Rule Pieces := do
  if ← look atDots then node "remaining_field_pattern" [mark ".."]
  else
    node "field_pattern" [optWord "ref", optMut, do
      let c ← get
      if (c.token 1).isMark ':' then
        parts [field "name" (if isLiteral c.next then literal else fieldIdentifier), mark ":",
          field "pattern" r.pattern]
      else field "name" (name (.other "shorthand_field_identifier"))]

def pathPattern (r : Rules) : Rule Pieces := do
  let route ← route r
  let c ← get
  if atDots c then rangeFrom r route.path
  else
    match route with
    | .lead .. | .bracketed _ | .generic _ | .belowGeneric .. => reject
    | route =>
      if c.at_ "(" then
        node "tuple_struct_pattern" [pure (Route.inField "type" route.path), mark "(",
          commaList ")" r.pattern, mark ")"]
      else if c.at_ "\x7b" && route.isName then
        node "struct_pattern" [pure (Route.inField "type" route.type), mark "\x7b",
          commaList "\x7d" (fieldPattern r), mark "\x7d"]
      else
        match route with
        | .word t =>
          if c.at_ "@" then node "captured_pattern" [pure [t.as .identifier], mark "@", r.plainPattern]
          else if c.at_ "!" then macroInvocation r route.path
          else return [t.as .identifier]
        | .applied base arguments =>
          return [.group (.other "generic_pattern") none (base.path ++ arguments)]
        | route => if c.at_ "!" then macroInvocation r route.path else return route.path

/-- A pattern without `|` outside brackets. -/
def plainPattern (r : Rules) : Rule Pieces := do
  let c ← get
  if c.at_ "-" || isLiteral c.next then
    let left ← if c.at_ "-" then negativeLiteral else literal
    if ← look atDots then rangeFrom r left else return left
  else if atDots c then
    let dots ← rangeDots
    if ← look startsRangeEnd then
      node "range_pattern" [pure dots, field "right" (rangeEnd r)]
    else return [.group (.other "remaining_field_pattern") none dots]
  else if c.at_ "(" then
    node "tuple_pattern" [mark "(", commaList ")" r.pattern, mark ")"]
  else if c.at_ "[" then
    node "slice_pattern" [mark "[", commaList "]" r.pattern, mark "]"]
  else if c.at_ "&" then
    node "reference_pattern" [mark "&", optMut, r.plainPattern]
  else if c.atWord "_" then leaf (.other "_") false
  else if c.atWord "ref" then node "ref_pattern" [keyword "ref", r.plainPattern]
  else if c.atWord "mut" then node "mut_pattern" [mutSpecifier, r.plainPattern]
  else if c.atWord "const" then constBlock r
  else pathPattern r

def atBar (c : Cursor) : Bool := c.at_ "|" && !c.spells "||" && !c.spells "|="

def moreAlternativesUpTo (r : Rules) : Nat → Pieces → Rule Pieces
  | 0, _ => reject
  | n + 1, left => do
    if ← look atBar then
      moreAlternativesUpTo r n (← node "or_pattern" [pure left, mark "|", r.plainPattern])
    else return left

def pattern (r : Rules) : Rule Pieces := do
  let first ←
    if ← look atBar then node "or_pattern" [mark "|", r.plainPattern] else r.plainPattern
  bounded fun n => moreAlternativesUpTo r n first

end CrateUsage.Rust.Grammar
