import CrateUsage.Text.Quoted

namespace CrateUsage.Json

inductive Value where
  | null
  | bool (b : Bool)
  | text (s : String)
  | array (items : List Value)
  | object (members : List (String × Value))
  deriving Repr

def unitEscapes (n : Nat) : List Char :=
  if n < 0x10000 then '\\' :: 'u' :: Text.hex 4 n
  else
    let m := n - 0x10000
    '\\' :: 'u' :: Text.hex 4 (0xd800 + m / 0x400) ++ '\\' :: 'u' :: Text.hex 4 (0xdc00 + m % 0x400)

def escapedChar (c : Char) : List Char :=
  if c = '"' then ['\\', '"']
  else if c = '\\' then ['\\', '\\']
  else if c = '\n' then ['\\', 'n']
  else if c = '\r' then ['\\', 'r']
  else if c = '\t' then ['\\', 't']
  else if c = '\x08' then ['\\', 'b']
  else if c = '\x0c' then ['\\', 'f']
  else if ' ' ≤ c && c ≤ '~' then [c]
  else unitEscapes c.toNat

def quoted (s : String) : List Char := '"' :: s.toList.flatMap escapedChar ++ ['"']

def newLine (level : Nat) : List Char := '\n' :: List.replicate (2 * level) ' '

/-- Parts between two brackets, a line for each. Without parts the brackets stand together. -/
def bracketed (level : Nat) (opening closing : Char) (parts : List (List Char)) : List Char :=
  match parts with
  | [] => [opening, closing]
  | parts =>
    opening :: newLine (level + 1)
      ++ List.intercalate (',' :: newLine (level + 1)) parts
      ++ newLine level ++ [closing]

namespace Value

mutual
def chars (level : Nat) : Value → List Char
  | null => "null".toList
  | bool b => (if b then "true" else "false").toList
  | text s => quoted s
  | array items => bracketed level '[' ']' (itemChars (level + 1) items)
  | object members => bracketed level '\x7b' '\x7d' (memberChars (level + 1) members)

def itemChars (level : Nat) : List Value → List (List Char)
  | [] => []
  | v :: vs => v.chars level :: itemChars level vs

def memberChars (level : Nat) : List (String × Value) → List (List Char)
  | [] => []
  | (key, v) :: ms => (quoted key ++ ':' :: ' ' :: v.chars level) :: memberChars level ms
end

def render (v : Value) : String := String.ofList (v.chars 0)

end Value
end CrateUsage.Json
