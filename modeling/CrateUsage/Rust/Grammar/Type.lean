import CrateUsage.Rust.Grammar.Attribute

namespace CrateUsage.Rust.Grammar

open Rule

def atLifetime (c : Cursor) : Bool := c.at_ "'"

/-- `use<'a, T>`: what a hidden type may hold on to. -/
def useBounds : Rule Pieces :=
  node "use_bounds" [keyword "use", mark "<",
    commaList ">" (do if ← look atLifetime then lifetime else typeIdentifier), mark ">"]

def bound (r : Rules) : Rule Pieces := do
  let c ← get
  if atLifetime c then lifetime
  else if c.atWord "use" && (c.token 1).isMark '<' then useBounds
  else r.plainType

def typeOfKinds (r : Rules) (kinds : List String) : Rule Pieces := do
  let t ← r.plainType
  if t.all fun p => p.kind?.any fun k => kinds.contains k.name then return t else reject

def namedKinds : List String := ["type_identifier", "scoped_type_identifier", "generic_type"]

def plusBounds (one : Rule Pieces) : Rule Pieces :=
  parts [one, many (·.at_ "+") (parts [mark "+", one])]

/-- `T = Default` and the other entries of `<…>` behind a declared name. -/
def typeParameter (r : Rules) (bounds : Rule Pieces) : Rule Pieces := do
  let c ← get
  if c.next.shape == some .metavariable then metavariable
  else if atLifetime c then
    node "lifetime_parameter" [field "name" lifetime, ifMark ":" (field "bounds" bounds)]
  else if c.atWord "const" then
    node "const_parameter" [keyword "const", field "name" identifier, mark ":",
      field "type" r.type, ifMark "=" (parts [mark "=", field "value" do
        let c ← get
        if c.at_ "\x7b" then r.block
        else if c.at_ "-" then node "negative_literal" [mark "-", literal]
        else if isLiteral c.next then literal
        else identifier])]
  else
    node "type_parameter" [field "name" typeIdentifier, ifMark ":" (field "bounds" bounds),
      ifMark "=" (parts [mark "=", field "default_type" r.type])]

def typeParametersWith (r : Rules) (bounds : Rule Pieces) : Rule Pieces :=
  node "type_parameters" [mark "<",
    commaList1 ">" (parts [attributeItems r, typeParameter r bounds]), mark ">"]

def higherRanked (r : Rules) (bounds : Rule Pieces) : Rule Pieces :=
  node "higher_ranked_trait_bound" [keyword "for",
    field "type_parameters" (typeParametersWith r bounds), field "type" r.plainType]

/-- The bounds among the parameters of a bound are bounds of the same form. -/
def traitBoundsUpTo (r : Rules) : Nat → Rule Pieces
  | 0 => reject
  | n + 1 =>
    let one : Rule Pieces := do
      if ← atWord "for" then higherRanked r (traitBoundsUpTo r n) else bound r
    node "trait_bounds" [mark ":", plusBounds one]

def traitBounds (r : Rules) : Rule Pieces := bounded (traitBoundsUpTo r)

def typeParameters (r : Rules) : Rule Pieces := typeParametersWith r (traitBounds r)

def optTypeParameters (r : Rules) : Rule Pieces :=
  ifMark "<" (field "type_parameters" (typeParameters r))

def typeBinding (r : Rules) (left : Pieces) : Rule Pieces :=
  let rest := [mark "=", field "type" r.type]
  match left with
  | [.leaf .typeIdentifier ..] => node "type_binding" (pure (Route.inField "name" left) :: rest)
  | [.group .genericType _ [name, arguments]] =>
    if name.kind? = some .typeIdentifier then
      node "type_binding" (pure [name.inField "name", arguments] :: rest)
    else reject
  | _ => reject

def typeArgument (r : Rules) : Rule Pieces := do
  let c ← get
  let argument ←
    if atLifetime c && !(c.token 2).isMark '+' then lifetime
    else if isLiteral c.next then literal
    else if c.at_ "\x7b" then r.block
    else
      let t ← r.type
      if ← atMark "=" then typeBinding r t else pure t
  return argument ++ (← ifMark ":" (traitBounds r))

def typeArguments (r : Rules) : Rule Pieces :=
  node "type_arguments" [mark "<", commaList1 ">" (typeArgument r), mark ">"]

def externModifier : Rule Pieces :=
  node "extern_modifier" [keyword "extern", when_ (·.next.shape == some .string) literal]

def modifierWords : List String := ["async", "default", "const", "unsafe", "extern"]

def functionModifiers : Rule Pieces := do
  if ← atAnyWordOf modifierWords then
    node "function_modifiers" [many (fun c => modifierWords.any c.atWord) do
      let c ← get
      if c.atWord "extern" then externModifier else leaf (.ofName (c.word 0)) false]
  else nothing

def selfParameter : Rule Pieces :=
  node "self_parameter" [optMark "&", when_ atLifetime lifetime, optMut, do
    let c ← get
    if c.atWord "self" && !(c.token 1).isMark ':' then leaf .selfWord true else reject]

def parameterHead (pattern : Rule Pieces) : Rule (Option Pieces) :=
  orElse (some <$> parts [optMut, field "pattern" do
      if ← atWord "self" then leaf .selfWord true else pattern,
    mark ":"]) (pure none)

def unnamedParameter (r : Rules) : Rule Pieces := do
  let c ← get
  if c.at_ "..." || (c.atWord "mut" && c.advance.at_ "...") then
    node "variadic_parameter" [optMut, mark "..."]
  else if c.atWord "_" && ((c.token 1).isMark ',' || (c.token 1).isMark ')') then leaf (.other "_") false
  else r.type

def parameter (r : Rules) : Rule Pieces := do
  let attributes ← when_ (·.at_ "#") (attributeItem r)
  let p ← orElse selfParameter do
    match ← parameterHead r.pattern with
    | some head =>
      if ← atMark "..." then node "variadic_parameter" [pure head, mark "..."]
      else node "parameter" [pure head, field "type" r.type]
    | none => unnamedParameter r
  return attributes ++ p

def parameters (r : Rules) : Rule Pieces :=
  node "parameters" [mark "(", commaList ")" (parameter r), mark ")"]

def returnType (t : Rule Pieces) : Rule Pieces :=
  when_ (·.spells "->") (parts [mark "->", field "return_type" t])

def namedFunctionType (r : Rules) (trait : Pieces) : Rule Pieces :=
  node "function_type" [pure (Route.inField "trait" trait), field "parameters" (parameters r),
    returnType r.plainType]

def functionType (r : Rules) : Rule Pieces :=
  node "function_type" [
    ifWord "for" (node "for_lifetimes" [keyword "for", mark "<", commaList1 ">" lifetime, mark ">"]),
    functionModifiers, keyword "fn", field "parameters" (parameters r), returnType r.plainType]

def takesArguments : Route → Bool
  | .word t => !primitiveTypes.contains t.text
  | .member .. | .belowGeneric .. => true
  | _ => false

def typeSegmentsUpTo (r : Rules) : Nat → Route → Rule Route
  | 0, _ => reject
  | n + 1, route => do
    let c ← get
    if atSegment c then typeSegmentsUpTo r n (← segment r route)
    else if c.at_ "<" && takesArguments route then
      let arguments ← field "type_arguments" r.typeArguments
      typeSegmentsUpTo r n
        (.generic (Route.group .genericType (Route.inField "type" route.type ++ arguments)))
    else return route

def pathType (r : Rules) : Rule Pieces := do
  let head ← routeHead r
  let route ← bounded fun n => typeSegmentsUpTo r n head
  let c ← get
  match route with
  | .generic ps => return ps
  | .lead t .metavariable => return [t.as .metavariable]
  | .lead .. | .bracketed _ | .applied .. => reject
  | .word t =>
    if primitiveTypes.contains t.text then return [t.as .primitiveType]
    else if c.at_ "!" then macroInvocation r route.path
    else if reservedNames.contains t.text then reject
    else if c.at_ "(" then namedFunctionType r route.type
    else return route.type
  | .member .. | .belowGeneric .. =>
    if c.at_ "(" then namedFunctionType r route.type
    else if c.at_ "!" then macroInvocation r route.path
    else return route.type

def tupleType (r : Rules) : Rule Pieces := do
  let opening ← mark "("
  if ← atMark ")" then return [.group (.other "unit_type") none (opening ++ (← mark ")"))]
  else
    let elements ← commaList1 ")" r.type
    return [.group (.other "tuple_type") none (opening ++ elements ++ (← mark ")"))]

def plainType (r : Rules) : Rule Pieces := do
  let c ← get
  if c.at_ "&" then
    node "reference_type" [mark "&", when_ atLifetime lifetime, optMut, field "type" r.plainType]
  else if c.at_ "*" then
    node "pointer_type" [mark "*", if c.word 1 = "const" then keyword "const" else mutSpecifier,
      field "type" r.plainType]
  else if c.at_ "(" then tupleType r
  else if c.at_ "[" then
    node "array_type" [mark "[", field "element" r.type,
      ifMark ";" (parts [mark ";", field "length" (r.expression false 0)]), mark "]"]
  else if c.at_ "!" then node "never_type" [mark "!"]
  else if c.at_ "?" then node "removed_trait_bound" [mark "?", r.plainType]
  else if c.atWord "impl" then
    node "abstract_type" [keyword "impl",
      ifWord "for" (parts [keyword "for", typeParameters r]), field "trait" do
        if ← look atLifetime then node "bounded_type" [lifetime, mark "+", bound r]
        else typeOfKinds r (namedKinds ++ ["removed_trait_bound", "function_type", "tuple_type"])]
  else if c.atWord "dyn" then
    node "dynamic_type" [keyword "dyn", field "trait" do
      if ← atWord "for" then higherRanked r (traitBounds r)
      else typeOfKinds r (namedKinds ++ ["function_type", "tuple_type"])]
  else if c.atWord "default" && ["::", "<", "!"].any (Cursor.spells c.advance) then pathType r
  else if c.atWord "fn" || c.atWord "for" || modifierWords.any c.atWord then functionType r
  else pathType r

def moreBoundsUpTo (r : Rules) : Nat → Pieces → Rule Pieces
  | 0, _ => reject
  | n + 1, left => do
    if ← atMark "+" then
      moreBoundsUpTo r n (← node "bounded_type" [pure left, mark "+", bound r])
    else return left

def type (r : Rules) : Rule Pieces := do
  let c ← get
  let first ←
    if atLifetime c then node "bounded_type" [lifetime, mark "+", r.plainType] else r.plainType
  bounded fun n => moreBoundsUpTo r n first

end CrateUsage.Rust.Grammar
