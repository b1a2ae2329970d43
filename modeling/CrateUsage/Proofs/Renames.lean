import CrateUsage.Proofs.BareGroups
import CrateUsage.Proofs.ExchangedOutlines
import CrateUsage.Proofs.Reachable
import CrateUsage.Proofs.Sightings
import CrateUsage.Proofs.Usages

namespace CrateUsage

/-- Where the scopes grow, what was local stays local. -/
theorem ScopeStack.Grows.isShadowed {s t : ScopeStack} (h : s.Grows t) (hs : s.Tidy) (ht : t.Tidy)
    {name : String} (hn : s.isShadowed name = true) : t.isShadowed name = true := by
  rw [hs.isShadowed_iff_frames] at hn
  rw [ht.isShadowed_iff_frames, h.below]
  exact List.mem_append.mpr ((List.mem_append.mp hn).imp_left fun hm => h.names.subset hm)

mutual
/-- By induction on the steps: a local name is no crate until the scope that it is local in is
closed, whatever scopes are opened and closed before. -/
theorem Step.sightings_hidden {s : Survey} {hidden : String} (ht : s.scopes.Tidy)
    (h : s.scopes.isShadowed hidden = true) : ∀ step : Step,
      ∀ r ∈ step.sightings s, r.name ≠ hidden
  | .refer name line => by
    intro r hr
    simp only [Step.sightings] at hr
    split at hr
    · cases hr
    · rename_i hn
      rw [List.mem_singleton.mp hr]
      rintro rfl
      exact hn (Bool.or_eq_true_iff.mpr (.inr h))
  | .declare _ => fun _ hr => by cases hr
  | .unreadable _ => fun _ hr => by cases hr
  | .scope marked body =>
    have hp : (s.push marked).scopes.Tidy := ht.push marked
    Step.sightingsAll_hidden hp h body
  | .function name markers body => by
    simp only [Step.sightings]
    split
    · rename_i isTest t he
      have hscopes := Survey.enterFunction_scopes he
      have hp : (t.push isTest).scopes.Tidy := (hscopes ▸ ht).push isTest
      have hn : (t.push isTest).scopes.isShadowed hidden = true := by
        rw [← hscopes] at h
        exact h
      exact Step.sightingsAll_hidden hp hn body
    · exact fun _ hr => by cases hr

theorem Step.sightingsAll_hidden {s : Survey} {hidden : String} (ht : s.scopes.Tidy)
    (h : s.scopes.isShadowed hidden = true) : ∀ steps : List Step,
      ∀ r ∈ Step.sightingsAll steps s, r.name ≠ hidden
  | [] => fun _ hr => by cases hr
  | step :: steps => by
    have hone := Step.sightings_hidden ht h step
    have htidy := (Step.leadsTo_run .refl step).tidy ht
    have hhidden := (Step.grows_run s step).isShadowed ht htidy h
    simp only [Step.sightingsAll]
    split
    · rename_i t he
      rw [he] at htidy hhidden
      exact List.forall_mem_append.mpr ⟨hone, Step.sightingsAll_hidden htidy hhidden steps⟩
    · rw [List.append_nil]
      exact hone
end

structure Uncovers (name : String) (visible fewer : List String) : Prop where
  subset : ∀ n, fewer.contains n = true → visible.contains n = true
  rest : ∀ n, n ≠ name → visible.contains n = true → fewer.contains n = true

def Reading.Finds (r : Reading) (build : Build) (name : String) : Prop :=
  ∃ e ∈ r.emitted, e.build = build ∧ e.name = name

/-- The second reading finds what the first finds and perhaps one name more, which it may not have
among its local names. -/
structure Reading.Reveals (name : String) (r q : Reading) : Prop where
  finds : ∀ build n, q.Finds build n ↔ r.Finds build n ∨ (n = name ∧ q.Finds build name)
  visible : Uncovers name r.visible q.visible
  hints : q.hints = r.hints

namespace Meaning

def Reveals (name : String) (a b : Meaning) : Prop :=
  ∀ (c : Setting) {visible fewer : List String}, Uncovers name visible fewer →
    (a c visible).Reveals name (b c fewer)

variable {name : String} {a b p q : Meaning}

theorem reveals_nothing (name : String) : Reveals name nothing nothing := by
  intro c visible fewer h
  exact ⟨by simp [Reading.Finds, nothing], h, rfl⟩

theorem finds_emit (n : String) (line : Int) (c : Setting) (visible : List String)
    (build : Build) (m : String) :
    (emit n line c visible).Finds build m ↔
      m = n ∧ build = c.build ∧ isPathKeyword n = false ∧ visible.contains n = false := by
  unfold Reading.Finds emit
  cases isPathKeyword n <;> cases visible.contains n <;>
    simp [eq_comm, and_comm]

theorem reveals_emit (name n : String) (line line' : Int) :
    Reveals name (emit n line) (emit n line') := by
  intro c visible fewer h
  refine ⟨fun build m => ?_, h, rfl⟩
  rw [finds_emit, finds_emit, finds_emit]
  cases hv : visible.contains n with
  | false =>
    have hf : fewer.contains n = false := by
      cases hf : fewer.contains n with
      | false => rfl
      | true =>
        rw [h.subset n hf] at hv
        cases hv
    rw [hf]
    constructor
    · exact .inl
    · rintro (hr | ⟨rfl, hr⟩)
      · exact hr
      · exact hr
  | true =>
    by_cases hn : n = name
    · subst hn
      tauto
    · have hf := h.rest n hn hv
      simp only [hf, Bool.true_eq_false, and_false, or_self]

theorem reveals_bring (name n : String) : Reveals name (bring n) (bring n) := by
  intro c visible fewer h
  refine ⟨by simp [Reading.Finds, bring], ⟨fun m hm => ?_, fun m hm hv => ?_⟩, rfl⟩
  · simp only [bring, List.contains_cons, Bool.or_eq_true] at hm ⊢
    exact hm.imp_right (h.subset m)
  · simp only [bring, List.contains_cons, Bool.or_eq_true] at hv ⊢
    exact hv.imp_right (h.rest m hm)

theorem finds_andThen (a b : Meaning) (c : Setting) (visible : List String) (build : Build)
    (n : String) : (a.andThen b c visible).Finds build n ↔
      (a c visible).Finds build n ∨ (b c (a c visible).visible).Finds build n := by
  simp only [Reading.Finds, andThen, List.mem_append, or_and_right, exists_or]

theorem Reveals.andThen (h : Reveals name a b) (g : Reveals name p q) :
    Reveals name (a.andThen p) (b.andThen q) := by
  intro c visible fewer hv
  obtain ⟨hf, hv, hh⟩ := h c hv
  obtain ⟨gf, gv, gh⟩ := g c hv
  refine ⟨fun build n => ?_, gv, ?_⟩
  · rw [finds_andThen, finds_andThen, finds_andThen, hf, gf]
    tauto
  · simp only [Meaning.andThen, hh, gh]

theorem Reveals.enclosed (h : Reveals name a b) (marked : Bool) :
    Reveals name (.enclosed marked a) (.enclosed marked b) := by
  intro c visible fewer hv
  obtain ⟨hf, -, hh⟩ := h (c.within marked) hv
  exact ⟨hf, hv, hh⟩

theorem Reveals.telling (h : Reveals name a b) (hints : Hints) :
    Reveals name (.telling hints a) (.telling hints b) := by
  intro c visible fewer hv
  obtain ⟨hf, hv, hh⟩ := h c hv
  exact ⟨hf, hv, congrArg hints.join hh⟩

theorem Reveals.freeFunction (h : Reveals name a b) (n : Option String) (markers : Markers) :
    Reveals name (.freeFunction n markers a) (.freeFunction n markers b) := by
  intro c visible fewer hv
  unfold Meaning.freeFunction
  split
  · exact (h.enclosed false).telling _ c hv
  · exact (h.enclosed markers.isTest).telling _ c hv

end Meaning

mutual
theorem Step.reveals_meaning (name : String) : ∀ step : Step,
    step.meaning.Reveals name step.meaning
  | .refer n line => Meaning.reveals_emit name n line line
  | .declare n => Meaning.reveals_bring name n
  | .unreadable _ => Meaning.reveals_nothing name
  | .scope marked body => (Step.reveals_meaningAll name body).enclosed marked
  | .function _ _ body => (Step.reveals_meaningAll name body).freeFunction _ _

theorem Step.reveals_meaningAll (name : String) : ∀ steps : List Step,
    (Step.meaningAll steps).Reveals name (Step.meaningAll steps)
  | [] => Meaning.reveals_nothing name
  | step :: steps => (Step.reveals_meaning name step).andThen (Step.reveals_meaningAll name steps)
end

namespace Outline

def Reveals (name : String) (a b : Outline) : Prop :=
  (Step.meaningAll a).Reveals name (Step.meaningAll b)

theorem compatible_reveals (name : String) : Compatible (Reveals name) where
  refl := Step.reveals_meaningAll name
  append := by
    intro a b c d h g
    unfold Reveals
    rw [Step.meaningAll_append, Step.meaningAll_append]
    exact Meaning.Reveals.andThen h g
  scope := by
    intro a b marked h
    unfold Reveals
    rw [Step.meaningAll_singleton, Step.meaningAll_singleton]
    exact Meaning.Reveals.enclosed h marked
  function := by
    intro a b n markers h
    unfold Reveals
    rw [Step.meaningAll_singleton, Step.meaningAll_singleton]
    exact Meaning.Reveals.freeFunction h _ _

end Outline

namespace Node

/-- The declaration `use x as y;`, where `x` is a single identifier. -/
structure RenamesByUse (x y : String) (n : Node) : Prop where
  kind : n.kind = .useDeclaration
  noSelf : n.hasSelf = false
  parts : ∃ clause path other, n.child? "argument" = some clause ∧ clause.kind = .useAsClause ∧
    clause.child? "path" = some path ∧ path.kind = .identifier ∧ path.text = some x ∧
    clause.child? "alias" = some other ∧ other.text = some y

/-- The declaration `extern crate x as y;`. -/
structure RenamesByCrate (x y : String) (n : Node) : Prop where
  kind : n.kind = .externCrateDeclaration
  noSelf : n.hasSelf = false
  parts : ∃ name other, n.child? "name" = some name ∧ name.kind = .identifier ∧
    name.text = some x ∧ n.child? "alias" = some other ∧ other.kind = .identifier ∧
    other.text = some y

structure RenamesExchanged (x y : String) (n m : Node) : Prop where
  byUse : n.RenamesByUse x y
  byCrate : m.RenamesByCrate x y
  named : m.named = n.named
  field : m.label.field = n.label.field
  line : m.line = n.line
  read : n.label.isWord = true → m.read = n.read

/-- The second tree is the first with some declarations `use x as y;` replaced by
`extern crate x as y;`. -/
abbrev RenamesReplaced (x y : String) (a b : Node) : Prop :=
  Exchanged (fun _ => RenamesExchanged x y) false a b

section Renames

variable {x y : String} {n m : Node}

/-- The clause of a `use` is no token of the list `(test)`. -/
theorem RenamesByUse.saysTest (h : n.RenamesByUse x y) :
    Attribute.saysTest (n.children.map label) = pure false := by
  obtain ⟨clause, path, other, hclause, hk, -⟩ := h.parts
  have hm := mem_children_of_child? hclause
  rcases hc : n.children with _ | ⟨opening, _ | ⟨word, _ | ⟨closing, _ | _⟩⟩⟩ <;> try rfl
  simp only [hc, List.mem_cons, List.not_mem_nil, or_false] at hm
  simp only [List.map_cons, List.map_nil, Attribute.saysTest]
  refine if_neg ?_
  rintro ⟨ho, hcl, hw⟩
  rcases hm with rfl | rfl | rfl
  · exact absurd (hk.symm.trans ho) (by decide)
  · exact absurd (hk.symm.trans hw) (by decide)
  · exact absurd (hk.symm.trans hcl) (by decide)

/-- The list `(test)` has one identifier, and the declaration has two. -/
theorem RenamesByCrate.saysTest (h : n.RenamesByCrate x y) :
    Attribute.saysTest (n.children.map label) = pure false := by
  obtain ⟨name, other, hname, hn, -, hother, ha, -⟩ := h.parts
  have hmn := mem_children_of_child? hname
  have hma := mem_children_of_child? hother
  rcases hc : n.children with _ | ⟨opening, _ | ⟨word, _ | ⟨closing, _ | _⟩⟩⟩ <;> try rfl
  simp only [hc, List.mem_cons, List.not_mem_nil, or_false] at hmn hma
  simp only [List.map_cons, List.map_nil, Attribute.saysTest]
  refine if_neg ?_
  rintro ⟨ho, hcl, -⟩
  have hword : ∀ k : Node, k.kind = .identifier → k = opening ∨ k = word ∨ k = closing →
      k = word := by
    intro k hk hm
    rcases hm with rfl | rfl | rfl
    · exact absurd (hk.symm.trans ho) (by decide)
    · rfl
    · exact absurd (hk.symm.trans hcl) (by decide)
  have heq : name = other := (hword name hn hmn).trans (hword other ha hma).symm
  have hfield := field_of_child? hname
  rw [heq, field_of_child? hother] at hfield
  exact absurd hfield (by decide)

theorem admissible_renamesExchanged (x y : String) :
    Admissible fun _ => RenamesExchanged x y where
  outside := fun h => by
    refine ⟨?_, ?_, h.named, h.field, h.line, h.read⟩
    · rw [h.byUse.kind]
      rfl
    · rw [h.byCrate.kind]
      rfl
  hasSelf := fun h => h.byCrate.noSelf.trans h.byUse.noSelf.symm
  saysTest := fun h => h.byCrate.saysTest.trans h.byUse.saysTest.symm

open Outline

/-- A `use` that renames refers to the crate for its tree and for its clause, and brings the new
name. -/
theorem RenamesByUse.ofNode_eq (h : n.RenamesByUse x y) (asPath : Bool) (p : Place)
    (after : List Node) :
    ∃ line, ofNode asPath p after n = [.refer x line, .refer x line, .declare y] := by
  obtain ⟨clause, path, other, hclause, hk, hpath, hpk, hx, hother, hy⟩ := h.parts
  refine ⟨path.line, ?_⟩
  have hread : path.read = .ok x := by
    rw [read, hx]
  have hnew : other.read = .ok y := by
    rw [read, hy]
  have hsegments : path.segments = [path] := segments_of_segment (by rw [hpk]; rfl)
  have hroot : useRoot clause = [.refer x path.line] := by
    simp only [useRoot, hk, hpath, referringFirst, firstSegment?, hsegments, List.head?_cons,
      referring, readingOf, Outline.reading, hread]
  have hnames : useNames clause = [.refer x path.line, .declare y] := by
    rw [useNames_eq, hk]
    simp only [hpath, hother, Option.elim_some, lastSegment?, hsegments, List.getLast?_singleton,
      referring, declaring, readingOf, Outline.reading, hread, hnew]
    rfl
  rw [ofNode_eq_saying]
  unfold saying
  rw [h.kind, hclause]
  cases asPath <;> simp [Kind.isSegment, Kind.isScopedPath, sayingUse, hroot, hnames]

/-- An `extern crate` refers to the crate and brings no name. -/
theorem RenamesByCrate.ofNode_eq (h : n.RenamesByCrate x y) (asPath : Bool) (p : Place)
    (after : List Node) : ∃ line, ofNode asPath p after n = [.refer x line] := by
  obtain ⟨name, other, hname, hk, hx, -⟩ := h.parts
  refine ⟨name.line, ?_⟩
  have hread : name.read = .ok x := by
    rw [read, hx]
  rw [ofNode_eq_saying]
  unfold saying
  rw [h.kind, hname]
  cases asPath <;>
    simp [Kind.isSegment, Kind.isScopedPath, referring, readingOf, Outline.reading, hread]

/-- The new name is not local behind an `extern crate`, and all else is the same. -/
theorem saysRelated_renamesExchanged (x y : String) :
    SaysRelated (Outline.Reveals y) fun _ => RenamesExchanged x y := by
  intro looked n m h asPath p q _ after rest
  obtain ⟨line, hn⟩ := h.byUse.ofNode_eq asPath p after
  obtain ⟨line', hm⟩ := h.byCrate.ofNode_eq asPath q rest
  rw [hn, hm]
  intro c visible fewer hv
  obtain ⟨hfinds, -, -⟩ := Meaning.reveals_emit y x line line' c hv
  have hfound : ∀ build name,
      (Step.meaningAll [.refer x line, .refer x line, .declare y] c visible).Finds build name ↔
        (Meaning.emit x line c visible).Finds build name := by
    intro build name
    have hnone : ∀ visible, ¬ (Meaning.andThen (.bring y) .nothing c visible).Finds build name := by
      intro visible
      simp [Meaning.andThen, Meaning.bring, Meaning.nothing, Reading.Finds]
    simp only [Step.meaningAll, Step.meaning, Meaning.finds_andThen _ (.andThen _ _), hnone, or_false]
    exact or_self_iff
  refine ⟨fun build name => ?_, ⟨fun name hf => ?_, fun name hne hf => ?_⟩, rfl⟩
  · rw [hfound, Step.meaningAll_singleton]
    exact hfinds build name
  · change (y :: visible).contains name = true
    rw [List.contains_cons, hv.subset name hf, Bool.or_true]
  · change (y :: visible).contains name = true at hf
    rw [List.contains_cons, beq_false_of_ne hne, Bool.false_or] at hf
    exact hv.rest name hne hf

end Renames

open Outline in
/-- A name that a `use` brings is local until its scope is closed, so that no reference to it counts;
an `extern crate` finds the same crate and leaves the scopes as they are. Put in the place of the
`use` in a whole tree it finds no crate less, and none more but the new name. -/
theorem discover_renames (x y : String) :
    (∀ {n m : Node}, n.RenamesByUse x y → m.RenamesByCrate x y →
      ∀ (asPath : Bool) (p : Place) (after : List Node) (s : Survey), s.scopes.Tidy →
        ∃ t u, Step.runAll (ofNode asPath p after n) s = (none, t) ∧
          Step.runAll (ofNode asPath p after m) s = (none, u) ∧
          t.scopes = s.scopes.declare y ∧ u.scopes = s.scopes ∧
          (∀ build name, name ∈ t.ledger.names build ↔ name ∈ u.ledger.names build) ∧
          ∀ rest : Outline, ∀ r ∈ Step.sightingsAll rest t, r.name ≠ y) ∧
    ∀ {a b : Node}, (∀ m ∈ a.preorder, m.text.isSome = true) →
      (∀ m ∈ b.preorder, m.text.isSome = true) → a.RenamesReplaced x y b →
        ∃ d e, a.discover = .ok d ∧ b.discover = .ok e ∧ e.hints = d.hints ∧
          ∀ build name, name ∈ e.names build ↔
            name ∈ d.names build ∨ (name = y ∧ y ∈ e.names build) := by
  constructor
  · intro n m hn hm asPath p after s ht
    obtain ⟨line, hn⟩ := hn.ofNode_eq asPath p after
    obtain ⟨line', hm⟩ := hm.ofNode_eq asPath p after
    let t := ((s.refer x (some line)).refer x (some line)).declare y
    have hscopes : t.scopes = s.scopes.declare y := by
      rw [Survey.scopes_declare, Survey.scopes_refer, Survey.scopes_refer]
    have htidy : t.scopes.Tidy := hscopes ▸ ht.declare y
    have hlocal : t.scopes.isShadowed y = true := by
      rw [hscopes, ScopeStack.isShadowed_declare]
      simp
    refine ⟨t, s.refer x (some line'), by rw [hn]; rfl, by rw [hm]; rfl, hscopes,
      Survey.scopes_refer .., fun build name => ?_, Step.sightingsAll_hidden htidy hlocal⟩
    rw [Survey.ledger_declare, Survey.mem_names_refer, Survey.mem_names_refer,
      Survey.mem_names_refer, Survey.build_refer, Survey.scopes_refer, or_assoc, or_self_iff]
  · intro a b ha hb h
    obtain ⟨s, hs, hsl, hsh⟩ := discover_of_outline (legible_of_isSome ha)
    obtain ⟨t, ht, htl, hth⟩ := discover_of_outline (legible_of_isSome hb)
    have hreveals : Outline.Reveals y a.outline b.outline :=
      h.outline (admissible_renamesExchanged x y) (compatible_reveals y)
        (saysRelated_renamesExchanged x y)
    have hnone : Uncovers y [] [] := ⟨fun _ => id, fun _ _ => id⟩
    obtain ⟨hfinds, -, hhints⟩ := hreveals {} hnone
    refine ⟨_, _, hs, ht, ?_, fun build name => ?_⟩
    · change t.hints = s.hints
      rw [hsh, hth, hhints]
    · have hnames : ∀ (t : Survey) (build : Build),
          (Discovery.ofSurvey t).names build = t.ledger.names build := by
        intro t build
        cases build <;> rfl
      have hfound := hfinds build name
      simp only [Reading.Finds] at hfound
      simp only [hnames, hsl, htl, Ledger.mem_names_enterAll_empty]
      exact hfound

def useRand : Node :=
  worded .useDeclaration none "use rand as r;" [
    worded .useAsClause (some "argument") "rand as r" [
      worded .identifier (some "path") "rand" [], worded .identifier (some "alias") "r" []]]

def externRand : Node :=
  worded .externCrateDeclaration none "extern crate rand as r;" [
    worded .identifier (some "name") "rand" [], worded .identifier (some "alias") "r" []]

theorem renamesExchanged_rand : RenamesExchanged "rand" "r" useRand externRand where
  byUse := ⟨rfl, rfl, _, _, _, rfl, rfl, rfl, rfl, rfl, rfl, rfl⟩
  byCrate := ⟨rfl, rfl, _, _, rfl, rfl, rfl, rfl, rfl, rfl⟩
  named := rfl
  field := rfl
  line := rfl
  read := fun h => by cases h

/-- Where the new name begins no path, either declaration will do. -/
theorem discover_renames_rand :
    let file := fun declaration => worded .sourceFile none "" [declaration,
      twoSegments none "rand" "random"]
    let a := file useRand
    let b := file externRand
    (∀ m ∈ a.preorder, m.text.isSome = true) ∧ (∀ m ∈ b.preorder, m.text.isSome = true) ∧
      a.RenamesReplaced "rand" "r" b ∧
      (∃ t, Step.runAll (Outline.ofNode false {} [] useRand) {} = (none, t) ∧
        ∀ rest : Outline, ∀ r ∈ Step.sightingsAll rest t, r.name ≠ "r") ∧
      ∃ d e, a.discover = .ok d ∧ b.discover = .ok e ∧ d.normal = ["rand"] ∧
        ∀ build name, name ∈ e.names build ↔ name ∈ d.names build := by
  intro file a b
  have ha : ∀ m ∈ a.preorder, m.text.isSome = true := by decide
  have hb : ∀ m ∈ b.preorder, m.text.isSome = true := by decide
  have hab : a.RenamesReplaced "rand" "r" b :=
    .within rfl (.cons (.here renamesExchanged_rand) (.refl _ _ _))
  obtain ⟨hscope, htree⟩ := discover_renames "rand" "r"
  obtain ⟨t, u, ht, -, -, -, -, hlocal⟩ := hscope renamesExchanged_rand.byUse
    renamesExchanged_rand.byCrate false {} [] {} ScopeStack.tidy_empty
  obtain ⟨d, e, hd, he, -, hnames⟩ := htree ha hb hab
  let found : Discovery :=
    { normal := ["rand"], testOnly := [], records := [⟨"rand", .normal, some 1⟩], hints := {} }
  have hfound : a.discover = .ok found := by rfl
  obtain rfl : found = d := Except.ok.inj (hfound.symm.trans hd)
  have hnew : ∀ build, "r" ∉ e.names build := by
    have hsame : b.discover = .ok found := by rfl
    obtain rfl : found = e := Except.ok.inj (hsame.symm.trans he)
    intro build
    cases build <;> decide
  exact ⟨ha, hb, hab, ⟨t, ht, hlocal⟩, found, e, hd, he, rfl, fun build name => by
    simp [hnames build name, hnew build]⟩

/-- Where the new name begins a path, an `extern crate` lets it pass for a crate. -/
theorem discover_renames_differ :
    let file := fun declaration => worded .sourceFile none "" [declaration,
      twoSegments none "r" "random"]
    let a := file useRand
    let b := file externRand
    (∀ m ∈ a.preorder, m.text.isSome = true) ∧ (∀ m ∈ b.preorder, m.text.isSome = true) ∧
      a.RenamesReplaced "rand" "r" b ∧
      a.discover.toOption.map (·.normal) = some ["rand"] ∧
      b.discover.toOption.map (·.normal) = some ["rand", "r"] :=
  ⟨by decide, by decide, .within rfl (.cons (.here renamesExchanged_rand) (.refl _ _ _)), by rfl,
    by rfl⟩

end Node

end CrateUsage
