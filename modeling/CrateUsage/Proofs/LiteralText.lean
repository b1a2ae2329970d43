import CrateUsage.Console.Markup
import Mathlib.Data.List.TakeWhile

namespace CrateUsage.Console

namespace Emoji

def codes : List Char → List (List Char)
  | [] => []
  | c :: cs =>
    if c = ':' then
      match _h : code? cs with
      | some (code, rest) => code :: codes rest
      | none => codes cs
    else codes cs
termination_by cs => cs.length
decreasing_by
  · have := length_lt_of_code? _h
    simp only [List.length_cons]
    omega
  · simp
  · simp

theorem append_of_code? {cs code rest : List Char} (h : code? cs = some (code, rest)) :
    cs = code ++ ':' :: rest := by
  unfold code? at h
  split at h
  · rename_i tail heq
    obtain ⟨rfl, rfl⟩ : cs.takeWhile isCodeChar = code ∧ tail = rest := by simpa using h
    rw [← heq, List.takeWhile_append_dropWhile]
  · cases h

/-- A text without the code of a picture stays as it is. -/
theorem replace_of_codes {cs : List Char} (h : ∀ code ∈ codes cs, picture? code = none) :
    replace cs = cs := by
  fun_induction codes cs with
  | case1 => rw [replace]
  | case2 cs code rest hc ih =>
    obtain ⟨hcode, hrest⟩ := List.forall_mem_cons.mp h
    rw [replace, if_pos rfl]
    split
    · rename_i code' rest' hc'
      cases hc.symm.trans hc'
      rw [hcode, ih hrest, append_of_code? hc]
      simp
    · rename_i hc'
      cases hc.symm.trans hc'
  | case3 cs hc ih =>
    rw [replace, if_pos rfl]
    split
    · rename_i hc'
      cases hc.symm.trans hc'
    · rw [ih h]
  | case4 c cs hc ih => rw [replace, if_neg hc, ih h]

theorem codes_cons_of_ne {c : Char} (hc : c ≠ ':') (cs : List Char) :
    codes (c :: cs) = codes cs := by
  rw [codes, if_neg hc]

/-- A blank behind a colon ends every code that could begin there. -/
theorem codes_colon_blank {c : Char} (hc : Text.isSpace c = true) (cs : List Char) :
    codes (':' :: c :: cs) = codes cs := by
  have hcolon : c ≠ ':' := by
    rintro rfl
    exact absurd hc (by decide)
  have hnone : code? (c :: cs) = none := by
    have hchar : isCodeChar c = false := by simp [isCodeChar, hc]
    simp [code?, hchar, hcolon]
  rw [codes, if_pos rfl]
  split
  · rename_i h
    cases hnone.symm.trans h
  · exact codes_cons_of_ne hcolon cs

theorem code?_concat {c : Char} (hc : isCodeChar c = true) (cs : List Char) :
    code? (cs ++ [c]) = (code? cs).map fun (code, rest) => (code, rest ++ [c]) := by
  simp only [code?, List.dropWhile_append, List.takeWhile_append]
  cases hd : cs.dropWhile isCodeChar with
  | nil => simp [hc]
  | cons d ds =>
    have hlen : (cs.takeWhile isCodeChar).length ≠ cs.length := by
      intro hlen
      have happ := congrArg List.length (List.takeWhile_append_dropWhile (p := isCodeChar) (l := cs))
      rw [List.length_append, hd, List.length_cons] at happ
      omega
    by_cases hcolon : d = ':'
    · simp [hlen, hcolon]
    · simp [hcolon]

theorem codes_concat {c : Char} (hc : isCodeChar c = true) (cs : List Char) :
    codes (cs ++ [c]) = codes cs := by
  have hcolon : c ≠ ':' := by
    rintro rfl
    exact absurd hc (by decide)
  fun_induction codes cs with
  | case1 => rw [List.nil_append, codes_cons_of_ne hcolon, codes]
  | case2 cs code rest h ih =>
    have hcat := code?_concat hc cs
    rw [h] at hcat
    rw [List.cons_append, codes, if_pos rfl]
    split
    · rename_i h'
      cases hcat.symm.trans h'
      rw [ih]
    · rename_i h'
      cases hcat.symm.trans h'
  | case3 cs h ih =>
    have hcat := code?_concat hc cs
    rw [h] at hcat
    rw [List.cons_append, codes, if_pos rfl]
    split
    · rename_i h'
      cases hcat.symm.trans h'
    · exact ih
  | case4 d cs hd ih => rw [List.cons_append, codes_cons_of_ne hd, ih]

end Emoji

namespace Markup

/-- No bracket of a text begins a tag. -/
def Untagged : List Char → Prop
  | [] => True
  | c :: cs => (c = '[' → tag? cs = none) ∧ Untagged cs

instance decidableUntagged : (cs : List Char) → Decidable (Untagged cs)
  | [] => .isTrue trivial
  | c :: cs =>
    have := decidableUntagged cs
    inferInstanceAs (Decidable ((c = '[' → tag? cs = none) ∧ Untagged cs))

theorem untagged_nil : Untagged [] := trivial

theorem untagged_of_not_mem {cs : List Char} (h : '[' ∉ cs) : Untagged cs := by
  induction cs with
  | nil => trivial
  | cons c cs ih =>
    rw [List.mem_cons, not_or] at h
    exact ⟨fun hc => (h.1 hc.symm).elim, ih h.2⟩

/-- What follows a text ends the tags that the text leaves open, and not by closing them. -/
def Stops (more : List Char) : Prop :=
  tag? more = none ∧ (more.dropWhile isTagChar).head? ≠ some ']'

theorem stops_nil : Stops [] := ⟨rfl, by simp⟩

theorem stops_bracket (more : List Char) : Stops ('[' :: more) := by
  constructor
  · have hstart : isTagStart '[' = false := by decide
    simp [tag?, hstart]
  · have hchar : isTagChar '[' = false := by decide
    simp [hchar]

theorem tag?_append {cs more : List Char} (h : tag? cs = none) (hmore : Stops more) :
    tag? (cs ++ more) = none := by
  cases cs with
  | nil => exact hmore.1
  | cons c cs =>
    simp only [List.cons_append, tag?] at h ⊢
    split
    · rename_i hstart
      rw [if_pos hstart] at h
      rw [List.dropWhile_append]
      cases hd : cs.dropWhile isTagChar with
      | nil =>
        rw [List.isEmpty_nil, if_pos rfl]
        cases hm : more.dropWhile isTagChar with
        | nil => rfl
        | cons d ds =>
          have hne : d ≠ ']' := by
            rintro rfl
            exact hmore.2 (by rw [hm, List.head?_cons])
          simp [hne]
      | cons d ds =>
        have hne : d ≠ ']' := by
          rintro rfl
          rw [hd] at h
          cases h
        simp [hne]
    · rfl

/-- Reading goes through a text without tags to what follows it. Nothing of the text is lost: it
stands in the plain text and in the backslashes, of which there are some only behind its end. -/
theorem piecesFrom_untagged {cs more : List Char} (h : Untagged cs) (hmore : Stops more)
    (position backslashes : Nat) (done : List Char) :
    ∃ b before, piecesFrom position backslashes done (cs ++ more)
        = piecesFrom (position + cs.length) b before more ∧
      List.replicate b '\\' ++ before = cs.reverse ++ (List.replicate backslashes '\\' ++ done) := by
  induction cs generalizing position backslashes done with
  | nil => exact ⟨backslashes, done, rfl, rfl⟩
  | cons c cs ih =>
    obtain ⟨hc, hcs⟩ := h
    rw [List.cons_append, piecesFrom]
    split
    · rename_i hslash
      obtain ⟨b, before, hpieces, htext⟩ := ih hcs (position + 1) (backslashes + 1) done
      refine ⟨b, before, ?_, ?_⟩
      · rw [hpieces, List.length_cons, Nat.add_right_comm, Nat.add_assoc]
      · rw [htext, hslash, List.replicate_succ]
        simp
    · have hnone : (if c = '[' then tag? (cs ++ more) else none) = none := by
        split
        · rename_i hbracket
          exact tag?_append (hc hbracket) hmore
        · rfl
      split
      · rename_i hsome
        rw [hnone] at hsome
        cases hsome
      · obtain ⟨b, before, hpieces, htext⟩ :=
          ih hcs (position + 1) 0 (c :: List.replicate backslashes '\\' ++ done)
        refine ⟨b, before, ?_, ?_⟩
        · rw [hpieces, List.length_cons, Nat.add_right_comm, Nat.add_assoc]
        · rw [htext]
          simp

/-- The last backslashes of a text, if there are any, stand right before what follows it. -/
theorem eq_of_replicate_append {b : Nat} {before cs : List Char} (hcs : cs.getLast? ≠ some '\\')
    (h : List.replicate b '\\' ++ before = cs.reverse) : b = 0 ∧ before = cs.reverse := by
  cases b with
  | zero => exact ⟨rfl, h⟩
  | succ b =>
    rw [List.getLast?_eq_head?_reverse, ← h] at hcs
    exact absurd rfl hcs

def plainText (cs : List Char) : List Char := Emoji.replace (unescaped cs)

theorem plainText_nil : plainText [] = [] := by
  rw [plainText, unescaped, Emoji.replace]

theorem textOf_plain (opened : List String) (cs : List Char) (ps : List Piece) :
    textOf opened (plain cs.reverse ++ ps) = (plainText cs ++ ·) <$> textOf opened ps := by
  cases hcs : cs.reverse with
  | nil =>
    obtain rfl := List.reverse_eq_nil_iff.mp hcs
    rw [plainText_nil]
    change textOf opened ps = _
    cases textOf opened ps <;> rfl
  | cons c rest =>
    have htext : (c :: rest).reverse = cs := by rw [← hcs, List.reverse_reverse]
    change textOf opened (.text (c :: rest).reverse :: ps) = _
    rw [htext, textOf]
    cases textOf opened ps <;> rfl

/-- A tag after a text without tags is read on its own. -/
theorem piecesFrom_tag {cs body rest : List Char} (h : Untagged cs)
    (hlast : cs.getLast? ≠ some '\\') (hbody : tag? (body ++ ']' :: rest) = some (body, rest))
    (position : Nat) :
    ∃ p q, piecesFrom position 0 [] (cs ++ '[' :: (body ++ ']' :: rest))
      = plain cs.reverse ++ .tag p body :: piecesFrom q 0 [] rest := by
  obtain ⟨b, before, hpieces, htext⟩ :=
    piecesFrom_untagged h (stops_bracket (body ++ ']' :: rest)) position 0 []
  obtain ⟨rfl, rfl⟩ := eq_of_replicate_append hlast (by simpa using htext)
  have htag : (if '[' = '[' then tag? (body ++ ']' :: rest) else none) = some (body, rest) := by
    rw [if_pos rfl, hbody]
  refine ⟨position + cs.length, position + cs.length + body.length + 2, ?_⟩
  rw [hpieces, piecesFrom, if_neg (by decide)]
  split
  · rename_i body' rest' hsome
    rw [htag] at hsome
    cases hsome
    simp [plain]
  · rename_i hnone
    rw [htag] at hnone
    cases hnone

theorem piecesFrom_end {cs : List Char} (h : Untagged cs) (position : Nat) :
    piecesFrom position 0 [] cs = plain cs.reverse := by
  obtain ⟨b, before, hpieces, htext⟩ := piecesFrom_untagged h stops_nil position 0 []
  rw [List.append_nil] at hpieces
  rw [hpieces, piecesFrom, htext]
  simp

theorem tag?_name {name : List Char} (hstart : name.head?.any isTagStart = true)
    (hinner : name.all isTagChar = true) (rest : List Char) :
    tag? (name ++ ']' :: rest) = some (name, rest) := by
  cases name with
  | nil => cases hstart
  | cons c cs =>
    rw [List.all_cons, Bool.and_eq_true, List.all_eq_true] at hinner
    have hclose : isTagChar ']' = false := by decide
    rw [List.cons_append, tag?, if_pos (by simpa using hstart),
      List.dropWhile_append_of_pos hinner.2, List.takeWhile_append_of_pos hinner.2]
    simp [hclose]

structure Encloses (name : List Char) : Prop where
  start : name.head?.any isTagStart = true
  inner : name.all isTagChar = true
  opening : name.head? ≠ some '/'
  whole : '=' ∉ name
  trimmed : Text.trim name = name
  canonical : Style.canonical name = String.ofList name

theorem encloses_red : Encloses "red".toList := by constructor <;> decide +kernel

theorem encloses_yellow : Encloses "yellow".toList := by constructor <;> decide +kernel

theorem encloses_green : Encloses "green".toList := by constructor <;> decide +kernel

theorem encloses_dim : Encloses "dim".toList := by constructor <;> decide +kernel

theorem takeWhile_of_not_mem {c : Char} {cs : List Char} (h : c ∉ cs) :
    cs.takeWhile (· ≠ c) = cs := by
  refine List.takeWhile_eq_self_iff.mpr fun d hd => decide_eq_true ?_
  rintro rfl
  exact h hd

theorem Encloses.opens {name : List Char} (h : Encloses name) (position : Nat) :
    afterTag position name [] = .ok [String.ofList name] := by
  unfold afterTag
  simp only [takeWhile_of_not_mem h.whole]
  split
  · exact absurd rfl h.opening
  · rw [h.canonical]

/-- The closing tag ends the style again. -/
theorem Encloses.closes {name : List Char} (h : Encloses name) (position : Nat) :
    afterTag position ('/' :: name) [String.ofList name] = .ok [] := by
  have hwhole : '=' ∉ '/' :: name := by
    rw [List.mem_cons, not_or]
    exact ⟨by decide, h.whole⟩
  have hne : name ≠ [] := by
    rintro rfl
    exact absurd h.start (by decide)
  unfold afterTag
  simp only [takeWhile_of_not_mem hwhole, h.trimmed, h.canonical, if_neg hne]
  simp

def tagged (body cs : List Char) : List Char := '[' :: (body ++ ']' :: cs)

def enclosed (name cs : List Char) : List Char := tagged name (cs ++ tagged ('/' :: name) [])

theorem enclosed_append (name cs more : List Char) :
    enclosed name cs ++ more = tagged name (cs ++ tagged ('/' :: name) more) := by
  simp [enclosed, tagged]

theorem Encloses.close {name : List Char} (h : Encloses name) (rest : List Char) :
    tag? ('/' :: name ++ ']' :: rest) = some ('/' :: name, rest) := by
  have hslash : isTagChar '/' = true := by decide
  exact tag?_name (by rfl) (by rw [List.all_cons, hslash, h.inner]; rfl) rest

/-- The tags around a text are gone behind it, and what follows is read as if it came first. -/
theorem textOf_enclosed {name before cs : List Char} (h : Encloses name) (hb : Untagged before)
    (hbLast : before.getLast? ≠ some '\\') (hcs : Untagged cs) (hlast : cs.getLast? ≠ some '\\')
    (position : Nat) (rest : List Char) :
    ∃ q, textOf [] (piecesFrom position 0 [] (before ++ (enclosed name cs ++ rest)))
      = (fun more => plainText before ++ (plainText cs ++ more))
        <$> textOf [] (piecesFrom q 0 [] rest) := by
  obtain ⟨p, q, hopen⟩ := piecesFrom_tag hb hbLast
    (tag?_name h.start h.inner (cs ++ tagged ('/' :: name) rest)) position
  obtain ⟨p', q', hclose⟩ := piecesFrom_tag hcs hlast (h.close rest) q
  refine ⟨q', ?_⟩
  rw [enclosed_append, tagged, hopen, tagged, hclose, textOf_plain, textOf, h.opens]
  change (plainText before ++ ·) <$> textOf [String.ofList name] _ = _
  rw [textOf_plain, textOf, h.closes]
  change (plainText before ++ ·) <$> (plainText cs ++ ·) <$> textOf [] _ = _
  cases textOf [] (piecesFrom q' 0 [] rest) <;> rfl

theorem textOf_untagged {cs : List Char} (h : Untagged cs) (position : Nat) :
    textOf [] (piecesFrom position 0 [] cs) = .ok (plainText cs) := by
  rw [piecesFrom_end h, ← List.append_nil (plain _), textOf_plain]
  change Except.ok (plainText cs ++ []) = _
  rw [List.append_nil]

theorem shown_of_text {s : String} {text : List Char}
    (h : textOf [] (piecesFrom 0 0 [] s.toList) = .ok text) :
    shown s = .ok (text.filter (!isCursorControl ·)) := by
  rw [shown, pieces, h]
  rfl

theorem shown_enclosed {name before cs : List Char} (h : Encloses name) (hb : Untagged before)
    (hbLast : before.getLast? ≠ some '\\') (hcs : Untagged cs) (hlast : cs.getLast? ≠ some '\\') :
    shown (String.ofList (before ++ enclosed name cs))
      = .ok ((plainText before ++ plainText cs).filter (!isCursorControl ·)) := by
  obtain ⟨q, htext⟩ := textOf_enclosed h hb hbLast hcs hlast 0 []
  rw [List.append_nil, textOf_untagged untagged_nil, plainText_nil] at htext
  refine shown_of_text ?_
  rw [String.toList_ofList, htext]
  change Except.ok (plainText before ++ (plainText cs ++ [])) = _
  rw [List.append_nil]

theorem shown_of_untagged {cs : List Char} (h : Untagged cs) :
    shown (String.ofList cs) = .ok ((plainText cs).filter (!isCursorControl ·)) := by
  refine shown_of_text ?_
  rw [String.toList_ofList, textOf_untagged h]

/-- A text with a closing tag that closes none of the styles that are ever open. -/
inductive Unopened : List Char → Prop where
  | intro {before body rest : List Char} (untagged : Untagged before)
      (unescaped : before.getLast? ≠ some '\\') (inner : body.all isTagChar = true)
      (named : Text.trim (body.takeWhile (· ≠ '=')) ≠ [])
      (other : Style.canonical (Text.trim (body.takeWhile (· ≠ '='))) ∉ ["red", "yellow"]) :
      Unopened (before ++ tagged ('/' :: body) rest)

theorem Unopened.ne_nil {cs : List Char} (h : Unopened cs) : cs ≠ [] := by
  obtain @⟨before, body, rest, -, -, -, -, -⟩ := h
  exact List.append_ne_nil_of_right_ne_nil _ (List.cons_ne_nil _ _)

theorem untagged_append {before cs : List Char} (hb : '[' ∉ before) (h : Untagged cs) :
    Untagged (before ++ cs) := by
  induction before with
  | nil => exact h
  | cons c before ih =>
    rw [List.mem_cons, not_or] at hb
    exact ⟨fun hc => (hb.1 hc.symm).elim, ih hb.2⟩

theorem getLast?_append_ne {before cs : List Char} {c : Char} (hb : before.getLast? ≠ some c)
    (hcs : cs.getLast? ≠ some c) : (before ++ cs).getLast? ≠ some c := by
  rw [List.getLast?_append]
  cases h : cs.getLast? with
  | none => exact hb
  | some d => rwa [Option.some_or, ← h]

theorem Unopened.behind {cs : List Char} (h : Unopened cs) {before : List Char}
    (hb : '[' ∉ before) (hlast : before.getLast? ≠ some '\\') : Unopened (before ++ cs) := by
  obtain @⟨lead, body, rest, hlead, hleadLast, hbody, hnamed, hother⟩ := h
  rw [← List.append_assoc]
  exact .intro (untagged_append hb hlead) (getLast?_append_ne hlast hleadLast) hbody hnamed hother

theorem Unopened.ahead {cs : List Char} (h : Unopened cs) (more : List Char) :
    Unopened (cs ++ more) := by
  obtain @⟨lead, body, rest, hlead, hleadLast, hbody, hnamed, hother⟩ := h
  have hcat : lead ++ tagged ('/' :: body) rest ++ more
      = lead ++ tagged ('/' :: body) (rest ++ more) := by simp [tagged]
  rw [hcat]
  exact .intro hlead hleadLast hbody hnamed hother

theorem afterTag_unopened {body : List Char} (hnamed : Text.trim (body.takeWhile (· ≠ '=')) ≠ [])
    {opened : List String}
    (hother : Style.canonical (Text.trim (body.takeWhile (· ≠ '='))) ∉ opened) (position : Nat) :
    ∃ f, afterTag position ('/' :: body) opened = .error f := by
  have hslash : ('/' :: body).takeWhile (· ≠ '=') = '/' :: body.takeWhile (· ≠ '=') :=
    List.takeWhile_cons_of_pos (by decide)
  refine ⟨.unmatched (String.ofList ('[' :: '/' :: body ++ [']'])) position, ?_⟩
  simp only [afterTag, hslash]
  rw [if_neg hnamed, if_neg (by simpa using hother)]

/-- The closing tag ends the reading, whatever follows it. -/
theorem textOf_unopened {cs : List Char} (h : Unopened cs) {opened : List String}
    (ho : opened ⊆ ["red", "yellow"]) (position : Nat) :
    ∃ f, textOf opened (piecesFrom position 0 [] cs) = .error f := by
  obtain @⟨before, body, rest, hb, hlast, hbody, hnamed, hother⟩ := h
  have hslash : isTagChar '/' = true := by decide
  have htag : tag? ('/' :: body ++ ']' :: rest) = some ('/' :: body, rest) :=
    tag?_name (by rfl) (by rw [List.all_cons, hslash, hbody]; rfl) rest
  obtain ⟨p, q, hpieces⟩ := piecesFrom_tag hb hlast htag position
  obtain ⟨f, hf⟩ := afterTag_unopened hnamed (fun hm => hother (ho hm)) p
  refine ⟨f, ?_⟩
  rw [tagged, hpieces, textOf_plain, textOf, hf]
  rfl

theorem shown_unopened {cs : List Char} (h : Unopened cs) :
    ∃ f, shown (String.ofList cs) = .error f := by
  obtain ⟨f, hf⟩ := textOf_unopened h (List.nil_subset _) 0
  refine ⟨f, ?_⟩
  rw [shown, String.toList_ofList, pieces, hf]
  rfl

theorem shown_tagged_unopened {name cs : List Char} (h : Encloses name)
    (hname : String.ofList name ∈ ["red", "yellow"]) (hcs : Unopened cs) :
    ∃ f, shown (String.ofList (tagged name cs)) = .error f := by
  obtain ⟨p, q, hopen⟩ := piecesFrom_tag untagged_nil (by simp) (tag?_name h.start h.inner cs) 0
  obtain ⟨f, hf⟩ :=
    textOf_unopened hcs (List.cons_subset.mpr ⟨hname, List.nil_subset _⟩) q
  refine ⟨f, ?_⟩
  rw [shown, String.toList_ofList, pieces, tagged]
  rw [List.nil_append] at hopen
  rw [hopen, textOf_plain, textOf, h.opens]
  change ((plainText [] ++ ·) <$> textOf [String.ofList name] _ >>= fun _ => _) = _
  rw [hf]
  rfl

theorem Untagged.append {cs more : List Char} (h : Untagged cs) (hs : Stops more)
    (hmore : Untagged more) : Untagged (cs ++ more) := by
  induction cs with
  | nil => exact hmore
  | cons c cs ih => exact ⟨fun hc => tag?_append (h.1 hc) hs, ih h.2⟩

theorem unescaped_concat {c : Char} (hc : c ≠ '[') (cs : List Char) :
    unescaped (cs ++ [c]) = unescaped cs ++ [c] := by
  fun_induction unescaped cs with
  | case1 =>
    rw [List.nil_append, unescaped, unescaped]
    exact fun _ _ h => by cases h
  | case2 cs ih => rw [List.cons_append, List.cons_append, unescaped, ih, List.cons_append]
  | case3 d cs hd ih =>
    rw [List.cons_append, unescaped, ih, List.cons_append]
    intro rest hslash hrest
    cases cs with
    | nil => exact hc (List.cons.inj hrest).1
    | cons e cs => exact hd cs hslash (by rw [(List.cons.inj hrest).1])

def isSteady (c : Char) : Bool := c ≠ '\t' && !isCursorControl c

/-- A text that means nothing but itself: no tag, no backslash that a bracket takes away, no code of
a picture, and no control that a screen acts upon. -/
structure Literal (cs : List Char) : Prop where
  untagged : Untagged cs
  unescaped : unescaped cs = cs
  uncoded : ∀ code ∈ Emoji.codes cs, Emoji.picture? code = none
  steady : cs.all isSteady = true

def isHarmless (c : Char) : Bool :=
  c ≠ '[' && c ≠ '\\' && c ≠ ':' && isSteady c

namespace Literal

variable {cs : List Char}

theorem plainText_eq (h : Literal cs) : plainText cs = cs := by
  rw [plainText, h.unescaped, Emoji.replace_of_codes h.uncoded]

theorem filter_eq (h : Literal cs) : cs.filter (!isCursorControl ·) = cs := by
  refine List.filter_eq_self.mpr fun c hc => ?_
  have hsteady := List.all_eq_true.mp h.steady c hc
  rw [isSteady, Bool.and_eq_true] at hsteady
  exact hsteady.2

theorem not_tab (h : Literal cs) : '\t' ∉ cs :=
  fun hc => absurd (List.all_eq_true.mp h.steady _ hc) (by decide)

theorem shown {s : String} (h : Literal s.toList) : Markup.shown s = .ok s.toList := by
  have hshown := shown_of_untagged h.untagged
  rwa [h.plainText_eq, h.filter_eq, String.ofList_toList] at hshown

theorem shown_enclosed {name : List Char} (hn : Encloses name) (h : Literal cs)
    (hlast : cs.getLast? ≠ some '\\') :
    Markup.shown (String.ofList (enclosed name cs)) = .ok cs := by
  have hshown := Markup.shown_enclosed hn untagged_nil (by simp) h.untagged hlast
  rwa [plainText_nil, h.plainText_eq, List.nil_append, List.nil_append, h.filter_eq] at hshown

theorem cons (h : Literal cs) {c : Char} (hc : isHarmless c = true) : Literal (c :: cs) := by
  simp only [isHarmless, Bool.and_eq_true, decide_eq_true_eq] at hc
  obtain ⟨⟨⟨hbracket, hslash⟩, hcolon⟩, hsteady⟩ := hc
  refine ⟨⟨fun hc => (hbracket hc).elim, h.untagged⟩, ?_, ?_, ?_⟩
  · rw [Markup.unescaped, h.unescaped]
    exact fun _ hc => (hslash hc).elim
  · rw [Emoji.codes_cons_of_ne hcolon]
    exact h.uncoded
  · rw [List.all_cons, hsteady, h.steady]
    rfl

theorem prepend (h : Literal cs) {before : List Char} (hb : before.all isHarmless = true) :
    Literal (before ++ cs) := by
  induction before with
  | nil => exact h
  | cons c before ih =>
    rw [List.all_cons, Bool.and_eq_true] at hb
    exact (ih hb.2).cons hb.1

theorem colonBlank (h : Literal cs) : Literal (':' :: ' ' :: cs) := by
  have hblank : Literal (' ' :: cs) := h.cons (by decide)
  refine ⟨⟨fun hc => absurd hc (by decide), hblank.untagged⟩, ?_, ?_, ?_⟩
  · rw [Markup.unescaped, hblank.unescaped]
    exact fun _ hc => absurd hc (by decide)
  · rw [Emoji.codes_colon_blank (by decide)]
    exact h.uncoded
  · rw [List.all_cons, hblank.steady]
    rfl

theorem dot (h : Literal cs) : Literal (cs ++ ['.']) := by
  have hdot : Literal ['.'] :=
    ⟨by decide, by decide,
      by rw [Emoji.codes_cons_of_ne (by decide), Emoji.codes]; exact List.forall_mem_nil _,
      by decide⟩
  refine ⟨h.untagged.append ⟨by decide, by decide⟩ hdot.untagged, ?_, ?_, ?_⟩
  · rw [unescaped_concat (by decide), h.unescaped]
  · rw [Emoji.codes_concat (by decide)]
    exact h.uncoded
  · rw [List.all_append, h.steady, hdot.steady]
    rfl

end Literal

end Markup
end CrateUsage.Console
