import CrateUsage.Rust.Grammar.TokenTree

namespace CrateUsage.Rust.Grammar

open Rule

def attributeBody (r : Rules) : Rule Pieces :=
  node "attribute" [simplePath r, do
    let c ← get
    if c.at_ "=" then parts [mark "=", field "value" (r.expression false 0)]
    else if atOpening c then field "arguments" r.tokenTree
    else nothing]

def attributeItem (r : Rules) : Rule Pieces :=
  node "attribute_item" [mark "#", mark "[", attributeBody r, mark "]"]

def innerAttributeItem (r : Rules) : Rule Pieces :=
  node "inner_attribute_item" [mark "#", mark "!", mark "[", attributeBody r, mark "]"]

def attributeItems (r : Rules) : Rule Pieces := many (·.at_ "#") (attributeItem r)

def isInnerAttribute (c : Cursor) : Bool := c.at_ "#" && (c.token 1).isMark '!'

/-- `pub`, `pub(crate)` and their like. A parenthesis that holds anything else belongs to what
follows. -/
def visibility (r : Rules) : Rule Pieces := do
  let c ← get
  let restricted := (c.token 1).isMark '('
    && (c.word 2 = "in"
      || ((c.word 2 = "self" || c.word 2 = "super" || c.word 2 = "crate") && (c.token 3).isMark ')'))
  if c.atWord "crate" then node "visibility_modifier" [simplePath r]
  else if !c.atWord "pub" then nothing
  else if restricted then
    node "visibility_modifier" [keyword "pub", mark "(", optWord "in", simplePath r, mark ")"]
  else node "visibility_modifier" [keyword "pub"]

end CrateUsage.Rust.Grammar
