import CrateUsage.Json.Value
import Mathlib.Data.List.Basic

namespace CrateUsage.Json

def isBlank (c : Char) : Bool := c = ' ' || c = '\t' || c = '\n' || c = '\r'

def skip (cs : List Char) : List Char := cs.dropWhile isBlank

def hexValue? (c : Char) : Option Nat := "0123456789abcdef".toList.findIdx? (· = c.toLower)

def unit? (a b c d : Char) : Option Nat := do
  let w ← hexValue? a
  let x ← hexValue? b
  let y ← hexValue? c
  let z ← hexValue? d
  return ((w * 16 + x) * 16 + y) * 16 + z

def isLead (n : Nat) : Bool := 0xd800 ≤ n && n < 0xdc00

def isTrail (n : Nat) : Bool := 0xdc00 ≤ n && n < 0xe000

def escape? : Char → Option Char
  | '"' => some '"'
  | '\\' => some '\\'
  | '/' => some '/'
  | 'b' => some '\x08'
  | 'f' => some '\x0c'
  | 'n' => some '\n'
  | 'r' => some '\r'
  | 't' => some '\t'
  | _ => none

def ahead (c : Char) (read : Option (List Char × List Char)) : Option (List Char × List Char) :=
  read.map fun (cs, rest) => (c :: cs, rest)

/-- A text behind its opening quote, and what follows its closing quote. Control characters stand
in no text, and of two units for one character neither stands alone. -/
def text? : List Char → Option (List Char × List Char)
  | [] => none
  | c :: cs =>
    if c = '"' then some ([], cs)
    else if c = '\\' then
      match cs with
      | 'u' :: a :: b :: c :: d :: cs =>
        match unit? a b c d with
        | none => none
        | some n =>
          if isLead n then
            match cs with
            | '\\' :: 'u' :: a :: b :: c :: d :: cs =>
              match unit? a b c d with
              | none => none
              | some m =>
                if isTrail m then
                  ahead (Char.ofNat (0x10000 + (n - 0xd800) * 0x400 + (m - 0xdc00))) (text? cs)
                else none
            | _ => none
          else if isTrail n then none
          else ahead (Char.ofNat n) (text? cs)
      | letter :: cs =>
        match escape? letter with
        | some c => ahead c (text? cs)
        | none => none
      | [] => none
    else if c < ' ' then none
    else ahead c (text? cs)

namespace Value

mutual
/-- A value, and what follows it. Values of this library hold no numbers, and none is read. The
bound is on the values in each other and behind each other. -/
def read : Nat → List Char → Option (Value × List Char)
  | 0, _ => none
  | bound + 1, cs =>
    match skip cs with
    | 'n' :: 'u' :: 'l' :: 'l' :: rest => some (null, rest)
    | 't' :: 'r' :: 'u' :: 'e' :: rest => some (bool true, rest)
    | 'f' :: 'a' :: 'l' :: 's' :: 'e' :: rest => some (bool false, rest)
    | '"' :: rest => (text? rest).map fun (s, rest) => (text (String.ofList s), rest)
    | '[' :: rest =>
      match skip rest with
      | ']' :: rest => some (array [], rest)
      | _ => (readItems bound rest).map fun (items, rest) => (array items, rest)
    | '\x7b' :: rest =>
      match skip rest with
      | '\x7d' :: rest => some (object [], rest)
      | _ => (readMembers bound rest).map fun (members, rest) => (object members, rest)
    | _ => none

def readItems : Nat → List Char → Option (List Value × List Char)
  | 0, _ => none
  | bound + 1, cs =>
    match read bound cs with
    | none => none
    | some (v, rest) =>
      match skip rest with
      | ',' :: rest => (readItems bound rest).map fun (vs, rest) => (v :: vs, rest)
      | ']' :: rest => some ([v], rest)
      | _ => none

def readMembers : Nat → List Char → Option (List (String × Value) × List Char)
  | 0, _ => none
  | bound + 1, cs =>
    match skip cs with
    | '"' :: rest =>
      match text? rest with
      | none => none
      | some (key, rest) =>
        match skip rest with
        | ':' :: rest =>
          match read bound rest with
          | none => none
          | some (v, rest) =>
            match skip rest with
            | ',' :: rest =>
              (readMembers bound rest).map fun (ms, rest) => ((String.ofList key, v) :: ms, rest)
            | '\x7d' :: rest => some ([(String.ofList key, v)], rest)
            | _ => none
        | _ => none
    | _ => none
end

def ofDocument? (s : String) : Option Value :=
  match read (s.length + 1) s.toList with
  | some (v, rest) => if (skip rest).isEmpty then some v else none
  | none => none

end Value

section Text

theorem hexValue?_hexDigit (n : Nat) : hexValue? (Text.hexDigit n) = some (n % 16) := by
  have hall : ∀ d < 16, hexValue? (Nat.digitChar d) = some d := by decide
  exact hall (n % 16) (Nat.mod_lt n (by decide))

/-- The four digits that are written of a unit are read as it. -/
theorem unit?_hex {n : Nat} (h : n < 0x10000) :
    ∃ a b c d, Text.hex 4 n = [a, b, c, d] ∧ unit? a b c d = some n := by
  refine ⟨_, _, _, _, rfl, ?_⟩
  simp only [unit?, hexValue?_hexDigit, Option.bind_eq_bind, Option.bind_some, Option.pure_def]
  congr 1
  omega

theorem toNat_cases (c : Char) :
    c.toNat < 0xd800 ∨ (0xdfff < c.toNat ∧ c.toNat < 0x110000) := c.valid

/-- What is written for a character that is not shown as it is stands for it. -/
theorem text?_unitEscapes (c : Char) (rest : List Char) :
    text? (unitEscapes c.toNat ++ rest) = ahead c (text? rest) := by
  have hc := toNat_cases c
  unfold unitEscapes
  split
  · rename_i hn
    obtain ⟨w, x, y, z, hhex, hunit⟩ := unit?_hex hn
    have hlead : isLead c.toNat = false := by
      simp only [isLead, Bool.and_eq_false_imp, decide_eq_true_eq, decide_eq_false_iff_not]
      omega
    have htrail : isTrail c.toNat = false := by
      simp only [isTrail, Bool.and_eq_false_imp, decide_eq_true_eq, decide_eq_false_iff_not]
      omega
    simp [hhex, text?, hunit, hlead, htrail]
  · rename_i hn
    have hm : 0xd800 + (c.toNat - 0x10000) / 0x400 < 0xdc00 := by omega
    obtain ⟨a, b, x, y, hhigh, hunitHigh⟩ := unit?_hex (Nat.lt_trans hm (by decide))
    obtain ⟨e, f, g, z, hlow, hunitLow⟩ :=
      unit?_hex (n := 0xdc00 + (c.toNat - 0x10000) % 0x400) (by omega)
    have hlead : isLead (0xd800 + (c.toNat - 0x10000) / 0x400) = true := by
      simp only [isLead, Bool.and_eq_true, decide_eq_true_eq]
      omega
    have htrail : isTrail (0xdc00 + (c.toNat - 0x10000) % 0x400) = true := by
      simp only [isTrail, Bool.and_eq_true, decide_eq_true_eq]
      omega
    have hjoin : 0x10000 + (c.toNat - 0x10000) / 0x400 * 0x400 + (c.toNat - 0x10000) % 0x400 =
        c.toNat := by
      omega
    simp [hhigh, hlow, text?, hunitHigh, hunitLow, hlead, htrail, hjoin]

/-- By cases on how a character is written: it is read back, and nothing behind it is. -/
theorem text?_escapedChar (c : Char) (rest : List Char) :
    text? (escapedChar c ++ rest) = ahead c (text? rest) := by
  unfold escapedChar
  split
  · subst_vars; rfl
  split
  · subst_vars; rfl
  split
  · subst_vars; rfl
  split
  · subst_vars; rfl
  split
  · subst_vars; rfl
  split
  · subst_vars; rfl
  split
  · subst_vars; rfl
  split
  · rename_i hquote hslash _ _ _ _ _ hshown
    have hcontrol : ¬c < ' ' := by
      rw [Bool.and_eq_true] at hshown
      exact Char.not_lt.mpr (of_decide_eq_true hshown.1)
    rw [List.singleton_append, text?.eq_def]
    simp only [hquote, hslash, hcontrol, if_false]
  · exact text?_unitEscapes c rest

theorem text?_quoted (cs rest : List Char) :
    text? (cs.flatMap escapedChar ++ '"' :: rest) = some (cs, rest) := by
  induction cs with
  | nil =>
    rw [List.flatMap_nil, List.nil_append, text?.eq_def]
    exact if_pos rfl
  | cons c cs ih =>
    rw [List.flatMap_cons, List.append_assoc, text?_escapedChar, ih]
    rfl

end Text

section Blanks

theorem skip_append {blanks : List Char} (h : blanks.all isBlank = true) (cs : List Char) :
    skip (blanks ++ cs) = skip cs := by
  rw [List.all_eq_true] at h
  exact List.dropWhile_append_of_pos h

theorem skip_cons {c : Char} (h : isBlank c = false) (cs : List Char) : skip (c :: cs) = c :: cs := by
  simp [skip, h]

theorem blank_newLine (level : Nat) : (newLine level).all isBlank = true := by
  have hblank : isBlank ' ' = true := by decide
  have hfeed : isBlank '\n' = true := by decide
  simp [newLine, hblank, hfeed]

theorem skip_newLine (level : Nat) (cs : List Char) : skip (newLine level ++ cs) = skip cs :=
  skip_append (blank_newLine level) cs

end Blanks

namespace Value

/-- Blanks before a value are not read. -/
theorem read_of_skip {cs ds : List Char} (h : skip cs = skip ds) (bound : Nat) :
    read bound cs = read bound ds := by
  cases bound with
  | zero => rfl
  | succ bound => simp only [read, h]

theorem readMembers_of_skip {cs ds : List Char} (h : skip cs = skip ds) (bound : Nat) :
    readMembers bound cs = readMembers bound ds := by
  cases bound with
  | zero => rfl
  | succ bound => simp only [readMembers, h]

theorem read_blank (bound : Nat) (cs : List Char) : read bound (' ' :: cs) = read bound cs := by
  have hblank : skip (' ' :: cs) = skip cs := by simp [skip, isBlank]
  exact read_of_skip hblank bound

mutual
def weight : Value → Nat
  | array items => weightItems items + 1
  | object members => weightMembers members + 1
  | _ => 1

def weightItems : List Value → Nat
  | [] => 0
  | v :: vs => v.weight + weightItems vs + 1

def weightMembers : List (String × Value) → Nat
  | [] => 0
  | (_, v) :: ms => v.weight + weightMembers ms + 1
end

/-- A value begins with a character of its own. -/
theorem exists_chars (level : Nat) (v : Value) :
    ∃ c cs, v.chars level = c :: cs ∧ isBlank c = false ∧ c ≠ ']' := by
  cases v with
  | null => exact ⟨'n', _, rfl, by decide, by decide⟩
  | bool b =>
    cases b with
    | true => exact ⟨'t', _, rfl, by decide, by decide⟩
    | false => exact ⟨'f', _, rfl, by decide, by decide⟩
  | text s => exact ⟨'"', _, rfl, by decide, by decide⟩
  | array items =>
    cases items with
    | nil => exact ⟨'[', _, rfl, by decide, by decide⟩
    | cons v vs => exact ⟨'[', _, rfl, by decide, by decide⟩
  | object members =>
    cases members with
    | nil => exact ⟨'\x7b', _, rfl, by decide, by decide⟩
    | cons m ms => exact ⟨'\x7b', _, rfl, by decide, by decide⟩

theorem read_text (s : String) (bound : Nat) (rest : List Char) :
    read (bound + 1) (quoted s ++ rest) = some (text s, rest) := by
  have hskip : skip (quoted s ++ rest) = '"' :: (s.toList.flatMap escapedChar ++ '"' :: rest) := by
    simp [quoted, skip_cons (c := '"') rfl]
  simp only [read, hskip, text?_quoted, Option.map_some, String.ofList_toList]

theorem readMembers_cons (key : String) {v : Value} {cs rest : List Char} {bound : Nat}
    (hv : read bound (' ' :: cs) = some (v, rest)) :
    readMembers (bound + 1) (quoted key ++ ':' :: ' ' :: cs) =
      match skip rest with
      | ',' :: rest => (readMembers bound rest).map fun (ms, rest) => ((key, v) :: ms, rest)
      | '\x7d' :: rest => some ([(key, v)], rest)
      | _ => none := by
  have hskip : skip (quoted key ++ ':' :: ' ' :: cs) =
      '"' :: (key.toList.flatMap escapedChar ++ '"' :: ':' :: ' ' :: cs) := by
    simp [quoted, skip_cons (c := '"') rfl]
  have hcolon : skip (':' :: ' ' :: cs) = ':' :: ' ' :: cs := skip_cons rfl _
  simp only [readMembers, hskip, text?_quoted, hcolon, hv, String.ofList_toList]

theorem readItems_of_skip {cs ds : List Char} (h : skip cs = skip ds) (bound : Nat) :
    readItems bound cs = readItems bound ds := by
  cases bound with
  | zero => rfl
  | succ bound => simp only [readItems, read_of_skip h]

/-- A row begins with its first part. -/
theorem exists_intercalate (separator part : List Char) (parts : List (List Char)) :
    ∃ tail, List.intercalate separator (part :: parts) = part ++ tail := by
  cases parts with
  | nil => exact ⟨[], by rw [List.intercalate_singleton, List.append_nil]⟩
  | cons next parts => exact ⟨_, by rw [List.intercalate_cons_cons, List.append_assoc]⟩

theorem read_array {items : List Value} {cs rest : List Char} {bound : Nat}
    (hcs : (skip cs).head? ≠ some ']') (h : readItems bound cs = some (items, rest)) :
    read (bound + 1) ('[' :: cs) = some (array items, rest) := by
  have hskip : skip ('[' :: cs) = '[' :: cs := skip_cons rfl cs
  simp only [read, hskip]
  split
  · rename_i hclose
    rw [hclose] at hcs
    exact absurd rfl hcs
  · rw [h]
    rfl

theorem read_object {members : List (String × Value)} {cs rest : List Char} {bound : Nat}
    (hcs : (skip cs).head? ≠ some '\x7d') (h : readMembers bound cs = some (members, rest)) :
    read (bound + 1) ('\x7b' :: cs) = some (object members, rest) := by
  have hskip : skip ('\x7b' :: cs) = '\x7b' :: cs := skip_cons rfl cs
  simp only [read, hskip]
  split
  · rename_i hclose
    rw [hclose] at hcs
    exact absurd rfl hcs
  · rw [h]
    rfl

mutual
/-- By induction on the value, together for a value, a row of items and a row of members: what is
written is read back, and nothing behind it is. -/
theorem read_chars : ∀ (v : Value) (level bound : Nat) (rest : List Char), v.weight ≤ bound →
    read bound (v.chars level ++ rest) = some (v, rest)
  | null, _, bound + 1, rest, _ => rfl
  | bool true, _, bound + 1, rest, _ => rfl
  | bool false, _, bound + 1, rest, _ => rfl
  | text s, _, bound + 1, rest, _ => read_text s bound rest
  | array [], _, bound + 1, rest, _ => rfl
  | array (v :: vs), level, bound + 1, rest, h => by
    have hitems := readItems_chars v vs (level + 1) level bound rest (Nat.le_of_succ_le_succ h)
    obtain ⟨tail, htail⟩ := exists_intercalate (',' :: newLine (level + 1)) (v.chars (level + 1))
      (itemChars (level + 1) vs)
    obtain ⟨c, cs, hv, hblank, hclose⟩ := exists_chars (level + 1) v
    have hhead : (skip (newLine (level + 1) ++
        (List.intercalate (',' :: newLine (level + 1)) (itemChars (level + 1) (v :: vs)) ++
          (newLine level ++ ']' :: rest)))).head? ≠ some ']' := by
      rw [skip_newLine, itemChars, htail, hv, List.append_assoc, List.cons_append, skip_cons hblank]
      exact fun h => hclose (Option.some.inj h)
    have hread := (readItems_of_skip (skip_newLine (level + 1) _) bound).trans hitems
    simpa [chars, bracketed, itemChars] using read_array hhead hread
  | object [], _, bound + 1, rest, _ => rfl
  | object ((key, v) :: ms), level, bound + 1, rest, h => by
    have hmembers := readMembers_chars key v ms (level + 1) level bound rest
      (Nat.le_of_succ_le_succ h)
    obtain ⟨tail, htail⟩ := exists_intercalate (',' :: newLine (level + 1))
      (quoted key ++ ':' :: ' ' :: v.chars (level + 1)) (memberChars (level + 1) ms)
    have hhead : (skip (newLine (level + 1) ++
        (List.intercalate (',' :: newLine (level + 1)) (memberChars (level + 1) ((key, v) :: ms)) ++
          (newLine level ++ '\x7d' :: rest)))).head? ≠ some '\x7d' := by
      rw [skip_newLine, memberChars, htail, quoted, List.cons_append, List.cons_append,
        List.cons_append, List.cons_append, skip_cons rfl]
      exact fun h => by cases h
    have hread := (readMembers_of_skip (skip_newLine (level + 1) _) bound).trans hmembers
    simpa [chars, bracketed, memberChars] using read_object hhead hread
termination_by structural _ _ bound => bound

theorem readItems_chars : ∀ (v : Value) (vs : List Value) (level outer bound : Nat)
    (rest : List Char), weightItems (v :: vs) ≤ bound →
      readItems bound (List.intercalate (',' :: newLine level) (itemChars level (v :: vs)) ++
        (newLine outer ++ ']' :: rest)) = some (v :: vs, rest)
  | v, [], level, outer, bound + 1, rest, h => by
    have hv := read_chars v level bound (newLine outer ++ ']' :: rest) (Nat.le_of_succ_le_succ h)
    have hskip : skip (newLine outer ++ ']' :: rest) = ']' :: rest := by
      rw [skip_newLine, skip_cons rfl]
    simp only [itemChars, List.intercalate_singleton, readItems, hv, hskip]
  | v, w :: vs, level, outer, bound + 1, rest, h => by
    have hweight : v.weight + weightItems (w :: vs) ≤ bound := Nat.le_of_succ_le_succ h
    have hrest := readItems_chars w vs level outer bound rest (by omega)
    rw [← readItems_of_skip (skip_newLine level _)] at hrest
    have hv := fun more => read_chars v level bound (',' :: more) (by omega)
    have hskip := fun more : List Char => skip_cons (c := ',') rfl more
    simp only [itemChars, List.intercalate_cons_cons, List.append_assoc, List.cons_append] at hrest ⊢
    simp only [readItems, hv, hskip, hrest, Option.map_some]
termination_by structural _ _ _ _ bound => bound

theorem readMembers_chars : ∀ (key : String) (v : Value) (ms : List (String × Value))
    (level outer bound : Nat) (rest : List Char), weightMembers ((key, v) :: ms) ≤ bound →
      readMembers bound
        (List.intercalate (',' :: newLine level) (memberChars level ((key, v) :: ms)) ++
          (newLine outer ++ '\x7d' :: rest)) = some ((key, v) :: ms, rest)
  | key, v, [], level, outer, bound + 1, rest, h => by
    have hv := read_chars v level bound (newLine outer ++ '\x7d' :: rest) (Nat.le_of_succ_le_succ h)
    rw [← read_blank] at hv
    have hskip : skip (newLine outer ++ '\x7d' :: rest) = '\x7d' :: rest := by
      rw [skip_newLine, skip_cons rfl]
    simp only [memberChars, List.intercalate_singleton, List.append_assoc, List.cons_append,
      readMembers_cons key hv, hskip]
  | key, v, (next, w) :: ms, level, outer, bound + 1, rest, h => by
    have hweight : v.weight + weightMembers ((next, w) :: ms) ≤ bound := Nat.le_of_succ_le_succ h
    have hrest := readMembers_chars next w ms level outer bound rest (by omega)
    rw [← readMembers_of_skip (skip_newLine level _)] at hrest
    have hv := fun more => (read_blank bound _).trans
      (read_chars v level bound (',' :: more) (by omega))
    have hskip := fun more : List Char => skip_cons (c := ',') rfl more
    simp only [memberChars, List.intercalate_cons_cons, List.append_assoc, List.cons_append]
      at hrest ⊢
    simp only [readMembers_cons key (hv _), hskip, hrest, Option.map_some]
termination_by structural _ _ _ _ _ bound => bound
end

/-- The parts of a row make up less than all of it. -/
theorem length_lt_length_bracketed (level : Nat) (opening closing : Char)
    (parts : List (List Char)) :
    parts.flatten.length + parts.length < (bracketed level opening closing parts).length := by
  have hrow : ∀ parts : List (List Char), parts.flatten.length + parts.length ≤
      (List.intercalate (',' :: newLine (level + 1)) parts).length + 1 := by
    intro parts
    induction parts with
    | nil => exact Nat.zero_le _
    | cons part parts ih =>
      cases parts with
      | nil => simp
      | cons next parts =>
        rw [List.intercalate_cons_cons]
        simp only [List.flatten_cons, List.length_append, List.length_cons] at ih ⊢
        omega
  cases parts with
  | nil => exact Nat.zero_lt_succ 1
  | cons part parts =>
    have h := hrow (part :: parts)
    simp only [bracketed, List.length_cons, List.length_append, newLine] at h ⊢
    omega

mutual
/-- No value is weightier than what is written of it. -/
theorem weight_le_length (level : Nat) : ∀ v : Value, v.weight ≤ (v.chars level).length
  | null => Nat.le_add_left 1 3
  | bool true => Nat.le_add_left 1 3
  | bool false => Nat.le_add_left 1 4
  | text s => by simp [weight, chars, quoted]
  | array items => by
    have hitems := weightItems_le_length (level + 1) items
    have hrow := length_lt_length_bracketed level '[' ']' (itemChars (level + 1) items)
    simp only [weight, chars]
    omega
  | object members => by
    have hmembers := weightMembers_le_length (level + 1) members
    have hrow := length_lt_length_bracketed level '\x7b' '\x7d' (memberChars (level + 1) members)
    simp only [weight, chars]
    omega

theorem weightItems_le_length (level : Nat) : ∀ vs : List Value,
    weightItems vs ≤ (itemChars level vs).flatten.length + (itemChars level vs).length
  | [] => Nat.le_refl 0
  | v :: vs => by
    have hv := weight_le_length level v
    have hvs := weightItems_le_length level vs
    simp only [weightItems, itemChars, List.flatten_cons, List.length_append, List.length_cons]
    omega

theorem weightMembers_le_length (level : Nat) : ∀ ms : List (String × Value),
    weightMembers ms ≤ (memberChars level ms).flatten.length + (memberChars level ms).length
  | [] => Nat.le_refl 0
  | (key, v) :: ms => by
    have hv := weight_le_length level v
    have hms := weightMembers_le_length level ms
    simp only [weightMembers, memberChars, List.flatten_cons, List.length_append,
      List.length_cons]
    omega
end

/-- A document that is written of a value is read as this value, also with blanks at its end. -/
theorem ofDocument?_render (v : Value) {blanks : String} (h : blanks.toList.all isBlank = true) :
    ofDocument? (v.render ++ blanks) = some v := by
  have hchars : (v.render ++ blanks).toList = v.chars 0 ++ blanks.toList := by
    rw [String.toList_append, render, String.toList_ofList]
  have hbound : v.weight ≤ (v.render ++ blanks).length + 1 := by
    have hweight := weight_le_length 0 v
    rw [← String.length_toList, hchars, List.length_append]
    omega
  have hskip : skip blanks.toList = [] := by
    rw [← List.append_nil blanks.toList, skip_append h]
    rfl
  rw [ofDocument?, hchars, read_chars v 0 _ blanks.toList hbound]
  simp only [hskip, List.isEmpty_nil, if_true]

end Value
end CrateUsage.Json
