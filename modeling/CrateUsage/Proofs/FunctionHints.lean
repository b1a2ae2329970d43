import CrateUsage.Proofs.FlatOutlines
import CrateUsage.Proofs.PathVisits
import CrateUsage.Proofs.TestIsolation

namespace CrateUsage

/-- What the head of a function tells, and whether it stands outside of every scope. -/
structure Head where
  outermost : Bool
  name : Option String
  markers : Markers
  deriving DecidableEq

namespace Head

def isMain (h : Head) : Bool := h.outermost && h.name = some "main"

def hints (h : Head) : Hints := if h.isMain then { hasMain := true } else h.markers.hints

end Head

mutual
def Step.heads (outermost : Bool) : Step → List Head
  | .refer _ _ | .declare _ | .unreadable _ => []
  | .scope _ body => headsAll false body
  | .function name markers body =>
    ⟨outermost, name.bind Except.toOption, markers.toOption.getD ⟨false, false, false⟩⟩ ::
      headsAll false body

def Step.headsAll (outermost : Bool) : List Step → List Head
  | [] => []
  | step :: steps => step.heads outermost ++ headsAll outermost steps
end

def Hints.joinAll (hints : List Hints) : Hints := hints.foldr join {}

theorem Hints.joinAll_append (a b : List Hints) :
    joinAll (a ++ b) = (joinAll a).join (joinAll b) := by
  induction a with
  | nil => simp [joinAll, join]
  | cons h a ih =>
    rw [List.cons_append, joinAll, List.foldr_cons, ← joinAll, ih, ← join_assoc]
    rfl

/-- A hint is given if one of the hints that are joined is. -/
theorem Hints.joinAll_iff {hint : Hints → Bool} (hempty : hint {} = false)
    (hjoin : ∀ a b, hint (join a b) = (hint a || hint b)) (hints : List Hints) :
    hint (joinAll hints) = true ↔ ∃ h ∈ hints, hint h = true := by
  induction hints with
  | nil => simp [joinAll, hempty]
  | cons h hints ih =>
    rw [joinAll, List.foldr_cons, ← joinAll, hjoin, Bool.or_eq_true, ih, List.exists_mem_cons_iff]

mutual
/-- By induction on the steps: a reading tells what the functions in it tell. -/
theorem Step.hints_meaning (c : Setting) (visible : List String) : ∀ step : Step,
    (step.meaning c visible).hints = .joinAll ((step.heads c.outermost).map Head.hints)
  | .refer _ _ | .declare _ | .unreadable _ => rfl
  | .scope marked body => Step.hints_meaningAll (c.within marked) visible body
  | .function name markers body => by
    have hbody := fun marked => Step.hints_meaningAll (c.within marked) visible body
    simp only [Step.meaning, Step.heads, Meaning.freeFunction, List.map_cons]
    generalize markers.toOption.getD _ = m
    generalize name.bind Except.toOption = n
    split
    · rename_i hmain
      have hhead : Head.hints ⟨c.outermost, n, m⟩ = { hasMain := true } := if_pos hmain
      rw [hhead]
      exact congrArg (Hints.join _) (hbody false)
    · rename_i hother
      have hhead : Head.hints ⟨c.outermost, n, m⟩ = m.hints := if_neg hother
      rw [hhead]
      exact congrArg (Hints.join _) (hbody _)

theorem Step.hints_meaningAll (c : Setting) (visible : List String) : ∀ steps : List Step,
    (Step.meaningAll steps c visible).hints =
      .joinAll ((Step.headsAll c.outermost steps).map Head.hints)
  | [] => rfl
  | step :: steps => by
    rw [Step.headsAll, List.map_append, Hints.joinAll_append, ← Step.hints_meaning c visible step]
    have hrest := Step.hints_meaningAll c (step.meaning c visible).visible steps
    rw [← hrest]
    rfl
end

theorem Step.headsAll_append (outermost : Bool) (a b : List Step) :
    Step.headsAll outermost (a ++ b) = Step.headsAll outermost a ++ Step.headsAll outermost b := by
  induction a with
  | nil => rfl
  | cons step a ih => rw [List.cons_append, Step.headsAll, ih, Step.headsAll, List.append_assoc]

theorem Step.mem_headsAll_flatMap {α : Type} {outermost : Bool} {f : α → Outline} {as : List α}
    {h : Head} :
    h ∈ Step.headsAll outermost (as.flatMap f) ↔ ∃ a ∈ as, h ∈ Step.headsAll outermost (f a) := by
  induction as with
  | nil => simp [Step.headsAll]
  | cons a as ih => simp [Step.headsAll_append, ih]

theorem Outline.IsFlat.headsAll {o : Outline} (h : o.IsFlat) (outermost : Bool) :
    Step.headsAll outermost o = [] := by
  induction o with
  | nil => rfl
  | cons step o ih =>
    obtain ⟨hs, ho⟩ := List.forall_mem_cons.mp h
    rw [Step.headsAll, ih ho, List.append_nil]
    cases step <;> first | rfl | cases hs

namespace Kind

def opensScope (kind : Kind) (above : List Kind) : Bool :=
  kind = .block || kind = .modItem || (kind = .functionItem && Node.isFree above)

theorem opensScope_of_part {kind : Kind} (h : kind.isScopedPath = true ∨ kind = .genericType)
    {above : List Kind} : kind.opensScope above = false := by
  rcases h with hp | rfl
  · rcases isScopedPath_iff.mp hp with rfl | rfl <;> simp [opensScope]
  · simp [opensScope]

/-- Use trees, `extern crate` declarations and attributes, in which no functions are looked for. -/
def isSpelledOut (kind : Kind) : Bool :=
  kind = .useDeclaration || kind = .externCrateDeclaration || kind = .attributeItem ||
    kind = .attributeBody

def areOutermost : List Kind → Bool
  | [] => true
  | kind :: above => !kind.opensScope above && areOutermost above

end Kind

def Node.NoFunctions (ns : List Node) : Prop := ∀ m ∈ ns, m.kind ≠ .functionItem

instance (ns : List Node) : Decidable (Node.NoFunctions ns) :=
  inferInstanceAs (Decidable (∀ m ∈ ns, m.kind ≠ .functionItem))

namespace Site

def isFreeFunction (s : Site) : Bool := s.node.kind = .functionItem && s.isFree

def head (s : Site) : Head :=
  ⟨Kind.areOutermost s.above, (s.node.child? "name").bind Node.text,
    Markers.told s.outerAttributes⟩

/-- The named children of a node, and what hangs off it if it is a path. -/
def reaching : Walk where
  next s := s.namedChildren ++ if s.isPath then s.hangings else []
  lighter s t h := by
    rcases List.mem_append.mp h with h | h
    · exact weight_lt_of_namedChild h
    · split at h
      · rename_i hp
        exact (within_of_hanging hp h).weight_lt
      · cases h

theorem mem_reaching {s t : Site} :
    t ∈ reaching.next s ↔
      t ∈ s.namedChildren ∨ s.node.kind.isScopedPath = true ∧ t ∈ s.hangings := by
  change t ∈ s.namedChildren ++ (if s.node.kind.isScopedPath then s.hangings else []) ↔ _
  rw [List.mem_append]
  split <;> simp_all

/-- What is asked of the nodes that a visit can come to: they have texts, and functions stand
neither where things are spelled out nor in a path beside what hangs off it. -/
structure FunctionsApart (s : Site) : Prop where
  texts : ∀ m ∈ s.material, m.text ≠ none
  spelledOut : ∀ m ∈ s.material, m.kind.isSpelledOut = true → Node.NoFunctions m.preorder
  paths : ∀ q ∈ s.below, q.isPath = true → ∀ a ∈ q.asides, Node.NoFunctions a.node.preorder

section Functions

variable {s t q a : Site}

theorem FunctionsApart.within (h : s.FunctionsApart) (hw : t.Within s) (hb : t.below ⊆ s.below) :
    t.FunctionsApart where
  texts m hm := h.texts m (hw.subperm.subset hm)
  spelledOut m hm := h.spelledOut m (hw.subperm.subset hm)
  paths q hq := h.paths q (hb hq)

theorem within_of_next (h : t ∈ reaching.next s) : t.Within s := by
  rcases mem_reaching.mp h with h | ⟨hp, h⟩
  · exact within_of_child (mem_children_of_named h)
  · exact within_of_hanging hp h

theorem below_subset_of_next (h : t ∈ reaching.next s) : t.below ⊆ s.below := by
  rcases mem_reaching.mp h with h | ⟨hp, h⟩
  · exact below_subset_of_child (mem_children_of_named h)
  · exact below_subset_of_hanging hp h

theorem node_mem_material (s : Site) : s.node ∈ s.material :=
  List.mem_append_left _ s.node.self_mem_preorder

theorem Within.node_mem (h : t.Within s) : t.node.preorder ⊆ s.node.preorder := by
  intro m hm
  rw [s.node.preorder_eq]
  exact List.mem_cons_of_mem _ (h.subset (List.mem_append_left _ hm))

/-- By induction on the walk: what it comes to is found below where it begins. -/
theorem eq_or_within_of_reach (h : q ∈ reaching.reach s) : q = s ∨ q.Within s := by
  induction s using weight_induction with
  | h s ih =>
    rw [Walk.reach_eq] at h
    rcases List.mem_cons.mp h with rfl | h
    · exact .inl rfl
    · obtain ⟨t, ht, hq⟩ := List.mem_flatMap.mp h
      have hw := within_of_next ht
      rcases ih t hw.weight_lt hq with rfl | hq
      · exact .inr hw
      · exact .inr (hq.trans hw)

theorem node_mem_of_reach (h : q ∈ reaching.reach s) : q.node ∈ s.node.preorder := by
  rcases eq_or_within_of_reach h with rfl | hw
  · exact q.node.self_mem_preorder
  · exact hw.node_mem q.node.self_mem_preorder

theorem material_subset_of_reach (h : q ∈ reaching.reach s) : q.material ⊆ s.material := by
  rcases eq_or_within_of_reach h with rfl | hw
  · exact List.Subset.refl _
  · exact hw.subperm.subset

section Erasing

variable {α : Type} {p r : α → Bool} {as : List α} {x : α}

theorem find?_or_mem_eraseP (h : x ∈ as) : as.find? p = some x ∨ x ∈ as.eraseP p := by
  induction as with
  | nil => cases h
  | cons y as ih =>
    rw [List.find?_cons, List.eraseP_cons]
    cases hy : p y with
    | true =>
      rcases List.mem_cons.mp h with rfl | h
      · exact .inl rfl
      · exact .inr h
    | false =>
      rcases List.mem_cons.mp h with rfl | h
      · exact .inr List.mem_cons_self
      · exact (ih h).imp_right (List.mem_cons_of_mem _)

theorem find?_eraseP (hpr : ∀ x, p x = true → r x = false) :
    (as.eraseP p).find? r = as.find? r := by
  induction as with
  | nil => rfl
  | cons y as ih =>
    rw [List.eraseP_cons, List.find?_cons]
    cases hy : p y with
    | true => rw [cond_true, hpr y hy]
    | false => rw [cond_false, List.find?_cons, ih]

end Erasing

/-- A named child of a part of a path is the part before it, hangs off it, or stands aside. -/
theorem part_cases (hs : s ∉ s.hangsOff) (h : t ∈ s.namedChildren) :
    s.base? = some t ∨ t ∈ s.hangsOff ∨ t ∈ s.strays := by
  obtain ⟨hc, hn⟩ := List.mem_filter.mp h
  unfold strays
  rw [List.mem_filter, hn]
  by_cases hp : s.node.kind.isScopedPath = true
  · rw [base?, if_pos hp, if_pos hp]
    rcases find?_or_mem_eraseP (p := (·.node.label.field == some "path")) hc with hf | hf
    · exact .inl hf
    · exact .inr (.inr ⟨hf, rfl⟩)
  · by_cases hg : s.node.kind = .genericType
    · rw [base?, if_neg hp, if_pos hg, if_neg hp, if_pos hg, hangsOff, if_pos hg]
      rcases find?_or_mem_eraseP (p := (·.node.label.field == some "type")) hc with hf | hf
      · exact .inl hf
      · rcases find?_or_mem_eraseP (p := (·.node.label.field == some "type_arguments")) hf
          with ha | ha
        · rw [find?_eraseP fun u hu => by simp [eq_of_beq hu]] at ha
          exact .inr (.inl (Option.mem_toList.mpr ha))
        · exact .inr (.inr ⟨ha, rfl⟩)
    · have hsegment : s.node.kind.isSegment = true := by
        by_contra hn
        exact hs (by simp [hangsOff, hg, hp, hn])
      rw [if_neg hp, if_neg hg, if_pos hsegment]
      exact .inr (.inr ⟨hc, rfl⟩)

theorem asides_subset_of_base {b : Site} (hb : s.base? = some b) : b.asides ⊆ s.asides := by
  intro a ha
  obtain ⟨t, ht, ha⟩ := List.mem_flatMap.mp ha
  exact List.mem_flatMap.mpr ⟨t, mem_chain_of_base hb ht, ha⟩

theorem hangings_subset_of_base {b : Site} (hb : s.base? = some b) : b.hangings ⊆ s.hangings := by
  intro t ht
  obtain ⟨c, hc, ht⟩ := mem_hangings.mp ht
  exact mem_hangings.mpr ⟨c, mem_chain_of_base hb hc, ht⟩

/-- By induction on the path: functions in it are found in what hangs off it. -/
theorem exists_hanging_of_reach (ha : ∀ a ∈ s.asides, Node.NoFunctions a.node.preorder)
    (hk : q.node.kind = .functionItem) (h : q ∈ reaching.reach s) :
    ∃ t ∈ s.hangings, q ∈ reaching.reach t := by
  induction s using weight_induction with
  | h s ih =>
    have hown : ∀ t ∈ s.hangsOff, t ∈ s.hangings := fun t ht =>
      mem_hangings.mpr ⟨s, s.self_mem_chain, ht⟩
    by_cases hs : s ∈ s.hangsOff
    · exact ⟨s, hown s hs, h⟩
    · rw [Walk.reach_eq] at h
      rcases List.mem_cons.mp h with rfl | h
      · simp [hangsOff, hk, Kind.isScopedPath, Kind.isSegment] at hs
      · obtain ⟨t, ht, hq⟩ := List.mem_flatMap.mp h
        rcases mem_reaching.mp ht with ht | ⟨-, ht⟩
        · rcases part_cases hs ht with hb | hoff | haside
          · have hlt := weight_lt_of_namedChild ht
            obtain ⟨u, hu, hqu⟩ := ih t hlt (fun a ham => ha a (asides_subset_of_base hb ham)) hq
            exact ⟨u, hangings_subset_of_base hb hu, hqu⟩
          · exact ⟨t, hown t hoff, hq⟩
          · have ham : t ∈ s.asides := List.mem_flatMap.mpr ⟨s, s.self_mem_chain, haside⟩
            exact absurd hk (ha t ham q.node (node_mem_of_reach hq))
        · exact ⟨t, ht, hq⟩

theorem legible_of_texts (ht : ∀ m ∈ s.material, m.text ≠ none) : s.node.Legible :=
  fun m hm hn => ht m (List.mem_append_left _ hm) hn

theorem preorder_subset_of_outerAttribute {n : Node} (h : n ∈ s.outerAttributes) :
    n.preorder ⊆ s.material := by
  rw [← map_node_attributes] at h
  obtain ⟨a, ha, rfl⟩ := List.mem_map.mp h
  exact fun m hm => material_subset_of_attribute ha (List.mem_append_left _ hm)

theorem markers_of_texts (ht : ∀ m ∈ s.material, m.text ≠ none) :
    Markers.ofAttributes s.outerAttributes = .ok (Markers.told s.outerAttributes) := by
  refine (answers_markers _).eq_ok fun m hm => ?_
  obtain ⟨n, hn, hm⟩ := List.mem_flatMap.mp hm
  exact ht m (preorder_subset_of_outerAttribute hn hm)

/-- The head of a function is read where it stands, and the rest of a visit says nothing of
functions but what the visits say that are made from it. -/
theorem headsAll_outline (ht : ∀ m ∈ s.material, m.text ≠ none) (outermost : Bool) :
    Step.headsAll outermost s.outline =
      (if s.isFreeFunction then [{ s.head with outermost }] else []) ++
        Step.headsAll (outermost && !s.node.kind.opensScope s.above) (s.calls.flatMap outline) := by
  have hlegible := legible_of_texts ht
  rw [outline_eq]
  have hmarkers := markers_of_texts ht
  cases hk : s.node.kind
  case useDeclaration =>
    have hflat := Outline.isFlat_elim fun tree (ha : s.node.child? "argument" = some tree) =>
      have htree := hlegible.child? ha
      (Outline.isFlat_useRoot htree).append (Outline.isFlat_useNames tree htree)
    simp [around, calls, isFreeFunction, hk, hflat.headsAll, Step.headsAll]
  case externCrateDeclaration =>
    have hflat := Outline.isFlat_elim fun name (ha : s.node.child? "name" = some name) =>
      Outline.isFlat_referring name fun m hm => Option.some.inj hm ▸ hlegible.child? ha
    simp [around, calls, isFreeFunction, hk, hflat.headsAll, Step.headsAll]
  case scopedIdentifier | scopedTypeIdentifier =>
    have hflat := Outline.isFlat_pathHead hlegible
    simp [around, isFreeFunction, Kind.opensScope, hk, Step.headsAll_append, hflat.headsAll]
  case block =>
    simp [around, isFreeFunction, Kind.opensScope, hk, Step.headsAll, Step.heads]
  case modItem =>
    have hflat : (Outline.declaring (s.node.child? "name")).IsFlat :=
      Outline.isFlat_declaring fun m hm => hlegible.child? hm
    simp [around, isFreeFunction, Kind.opensScope, hk, hmarkers, Step.headsAll_append,
      hflat.headsAll, Step.headsAll, Step.heads]
  case functionItem =>
    have hname := Outline.toOption_read (s.node.child? "name")
    have hopens : Kind.opensScope .functionItem s.above = s.isFree := by
      simp [Kind.opensScope, isFree]
    cases hf : s.isFree with
    | true =>
      simp [around, isFreeFunction, hopens, hk, hf, hmarkers, Step.headsAll, Step.heads, head,
        Except.toOption, hname]
    | false => simp [around, isFreeFunction, hopens, hk, hf]
  all_goals simp [around, isFreeFunction, Kind.opensScope, hk]

theorem material_subset_of_call (h : t ∈ s.calls) : t.material ⊆ s.material := by
  rcases mem_calls h with h | h | ⟨hp, h⟩
  · exact material_subset_of_attribute h
  · exact (within_of_child (mem_children_of_named h)).subperm.subset
  · exact (within_of_hanging hp h).subperm.subset

/-- By induction on the weight: where no functions are, none are told of. -/
theorem headsAll_eq_nil (ht : ∀ m ∈ s.material, m.text ≠ none) (hf : Node.NoFunctions s.material)
    (outermost : Bool) : Step.headsAll outermost s.outline = [] := by
  induction s using weight_induction generalizing outermost with
  | h s ih =>
    have hnone : s.isFreeFunction = false := by
      simp [isFreeFunction, hf s.node s.node_mem_material]
    rw [headsAll_outline ht, hnone]
    refine List.eq_nil_iff_forall_not_mem.mpr fun head hm => ?_
    obtain ⟨t, hc, hm⟩ := Step.mem_headsAll_flatMap.mp hm
    have hsub := material_subset_of_call hc
    rw [ih t (weight_lt_of_call hc) (fun m hm => ht m (hsub hm)) fun m hm => hf m (hsub hm)] at hm
    cases hm

theorem areOutermost_of_child (h : t ∈ s.children) :
    Kind.areOutermost t.above =
      (Kind.areOutermost s.above && !s.node.kind.opensScope s.above) := by
  rw [above_of_child h, Kind.areOutermost, Bool.and_comm]

theorem areOutermost_of_part (hp : s.node.kind.isScopedPath = true ∨ s.node.kind = .genericType)
    (h : t ∈ s.children) : Kind.areOutermost t.above = Kind.areOutermost s.above := by
  rw [areOutermost_of_child h, Kind.opensScope_of_part hp, Bool.not_false, Bool.and_true]

/-- What hangs off a path stands outside of every scope if the path does. -/
theorem areOutermost_of_hanging (h : t ∈ s.hangings) :
    Kind.areOutermost t.above = Kind.areOutermost s.above := by
  obtain ⟨c, hc, ht⟩ := mem_hangings.mp h
  have hchain : Kind.areOutermost c.above = Kind.areOutermost s.above := by
    refine chain_induction (P := fun c s => Kind.areOutermost c.above = Kind.areOutermost s.above)
      (fun _ => rfl) ?_ hc
    intro s b c hb ih
    have hp : s.node.kind.isScopedPath = true ∨ s.node.kind = .genericType := by
      unfold base? at hb
      split at hb
      · exact .inl ‹_›
      · split at hb
        · exact .inr ‹_›
        · cases hb
    exact ih.trans (areOutermost_of_part hp (mem_children_of_base? hb))
  rcases mem_hangsOff ht with ⟨hg, ht⟩ | ⟨rfl, -⟩
  · exact (areOutermost_of_part (.inr hg) ht).trans hchain
  · exact hchain

theorem areOutermost_of_next (h : t ∈ reaching.next s) :
    Kind.areOutermost t.above =
      (Kind.areOutermost s.above && !s.node.kind.opensScope s.above) := by
  rcases mem_reaching.mp h with h | ⟨hp, h⟩
  · exact areOutermost_of_child (mem_children_of_named h)
  · rw [areOutermost_of_hanging h, Kind.opensScope_of_part (.inl hp), Bool.not_false,
      Bool.and_true]

/-- The attributes before a node hold no functions. -/
theorem FunctionsApart.headsAll_attribute (h : s.FunctionsApart) (ha : a ∈ s.attributes)
    (outermost : Bool) : Step.headsAll outermost a.outline = [] := by
  obtain ⟨n, hn, hk, hm⟩ := exists_item_of_attribute ha
  have hnone := h.spelledOut n
    (List.mem_append_right _ ((preorder_sublist_of_before hn).subset n.self_mem_preorder))
    (by simp [Kind.isSpelledOut, hk])
  refine headsAll_eq_nil (fun m hmem => h.texts m (material_subset_of_attribute ha hmem)) ?_
    outermost
  intro m hmem
  refine hnone m ?_
  rw [n.preorder_eq]
  exact List.mem_cons_of_mem _ (hm.subset hmem)

theorem namedChildren_subset_calls (hs : s.node.kind.isSpelledOut = false)
    (hp : s.isPath = false) : s.namedChildren ⊆ s.calls := by
  have howned : s.isOwned = false := by
    have hk : s.node.kind ≠ .attributeItem := by
      intro hk
      simp [Kind.isSpelledOut, hk] at hs
    simp [isOwned, hk]
  intro t ht
  unfold calls
  split
  · rename_i hk
    simp [Kind.isSpelledOut, hk] at hs
  · rename_i hk
    simp [Kind.isSpelledOut, hk] at hs
  · rename_i hk
    simp [isPath, Kind.isScopedPath, hk] at hp
  · rename_i hk
    simp [isPath, Kind.isScopedPath, hk] at hp
  · rename_i hk
    simp [Kind.isSpelledOut, hk] at hs
  · rw [howned, if_neg Bool.false_ne_true]
    split
    · exact List.mem_append_right _ ht
    · exact ht

/-- A function that is reached by way of a child or of a path is visited by way of it as well. -/
theorem FunctionsApart.exists_call (h : s.FunctionsApart) (hk : q.node.kind = .functionItem)
    (ht : t ∈ reaching.next s) (hq : q ∈ reaching.reach t) :
    ∃ c ∈ s.calls, c ∈ reaching.next s ∧ q ∈ reaching.reach c := by
  have hspelled : s.node.kind.isSpelledOut = false := by
    by_contra hs
    have hnone := h.spelledOut s.node s.node_mem_material (by simpa using hs)
    exact hnone q.node ((within_of_next ht).node_mem (node_mem_of_reach hq)) hk
  cases hp : s.isPath with
  | true =>
    have hs : q ∈ reaching.reach s := by
      rw [Walk.reach_eq]
      exact List.mem_cons_of_mem _ (List.mem_flatMap.mpr ⟨t, ht, hq⟩)
    obtain ⟨u, hu, hqu⟩ := exists_hanging_of_reach (h.paths s s.self_mem_below hp) hk hs
    exact ⟨u, calls_of_path hp ▸ hu, mem_reaching.mpr (.inr ⟨hp, hu⟩), hqu⟩
  | false =>
    have hn : t ∈ s.namedChildren := by
      rcases mem_reaching.mp ht with hn | ⟨hpath, -⟩
      · exact hn
      · rw [isPath, hpath] at hp
        cases hp
    exact ⟨t, namedChildren_subset_calls hspelled hp hn, ht, hq⟩

/-- By induction on the weight: the heads that a visit comes to are those of the functions below. -/
theorem mem_headsAll (h : s.FunctionsApart) {head : Head} :
    head ∈ Step.headsAll (Kind.areOutermost s.above) s.outline ↔
      ∃ q ∈ reaching.reach s, q.isFreeFunction = true ∧ q.head = head := by
  induction s using weight_induction with
  | h s ih =>
    have hnext : ∀ t ∈ reaching.next s,
        (head ∈ Step.headsAll (Kind.areOutermost s.above && !s.node.kind.opensScope s.above)
          t.outline ↔ ∃ q ∈ reaching.reach t, q.isFreeFunction = true ∧ q.head = head) := by
      intro t ht
      have hw := within_of_next ht
      rw [← areOutermost_of_next ht]
      exact ih t hw.weight_lt (h.within hw (below_subset_of_next ht))
    rw [headsAll_outline h.texts, List.mem_append, Step.mem_headsAll_flatMap, Walk.reach_eq]
    constructor
    · rintro (hown | ⟨t, ht, hm⟩)
      · split at hown
        · rename_i hfree
          exact ⟨s, List.mem_cons_self, hfree, (List.mem_singleton.mp hown).symm⟩
        · cases hown
      · rcases mem_calls ht with ha | hn
        · rw [h.headsAll_attribute ha] at hm
          cases hm
        · have htn := mem_reaching.mpr hn
          obtain ⟨q, hq, hfree⟩ := (hnext t htn).mp hm
          exact ⟨q, List.mem_cons_of_mem _ (List.mem_flatMap.mpr ⟨t, htn, hq⟩), hfree⟩
    · rintro ⟨q, hq, hfree, rfl⟩
      rcases List.mem_cons.mp hq with rfl | hq
      · rw [if_pos hfree]
        exact .inl List.mem_cons_self
      · obtain ⟨t, ht, hq⟩ := List.mem_flatMap.mp hq
        have hk : q.node.kind = .functionItem := by
          simpa using (Bool.and_eq_true_iff.mp hfree).1
        obtain ⟨c, hc, hcn, hqc⟩ := h.exists_call hk ht hq
        exact .inr ⟨c, hc, (hnext c hcn).mpr ⟨q, hqc, hfree, rfl⟩⟩

end Functions

def IsMain (s : Site) : Prop :=
  (s.node.child? "name").bind Node.text = some "main" ∧ Kind.areOutermost s.above = true

def HasAttribute (s : Site) (name : String) : Prop :=
  ∃ a ∈ s.outerAttributes, Attribute.name a = .ok (some name)

theorem isMain_head (s : Site) : s.head.isMain = true ↔ s.IsMain := by
  rw [Head.isMain, Bool.and_eq_true, decide_eq_true_iff, and_comm]
  rfl

theorem hasAttribute_iff {s : Site} (ht : ∀ m ∈ s.material, m.text ≠ none) (name : String) :
    s.HasAttribute name ↔ (s.outerAttributes.map Attribute.word).contains (some name) = true := by
  have hword : ∀ a ∈ s.outerAttributes, Attribute.name a = .ok (Attribute.word a) := by
    intro a ha
    refine (Attribute.answers_name a).eq_ok fun m hm => ?_
    exact ht m (preorder_subset_of_outerAttribute ha hm)
  rw [List.contains_iff_mem, List.mem_map]
  constructor
  · rintro ⟨a, ha, hn⟩
    rw [hword a ha] at hn
    exact ⟨a, ha, Except.ok.inj hn⟩
  · rintro ⟨a, ha, hn⟩
    exact ⟨a, ha, (hword a ha).trans (congrArg Except.ok hn)⟩

section HeadHints

variable {s : Site}

theorem hasMain_head : s.head.hints.hasMain = true ↔ s.IsMain := by
  rw [← isMain_head, Head.hints]
  cases s.head.isMain with
  | true => simp
  | false => simp [Markers.hints]

/-- The entry point tells nothing else, and its attributes are not looked at. -/
theorem hint_head (ht : ∀ m ∈ s.material, m.text ≠ none) {hint : Hints → Bool} {name : String}
    (hmain : hint { hasMain := true } = false)
    (hword : hint (Markers.told s.outerAttributes).hints =
      (s.outerAttributes.map Attribute.word).contains (some name)) :
    hint s.head.hints = true ↔ ¬s.IsMain ∧ s.HasAttribute name := by
  rw [← isMain_head, hasAttribute_iff ht, ← hword, Head.hints]
  cases s.head.isMain with
  | true => simp [hmain]
  | false => simp [head]

/-- A hint is given where the head of some function that is reached gives it. -/
theorem FunctionsApart.hint_iff (h : s.FunctionsApart) {hint : Hints → Bool} {P : Site → Prop}
    (hempty : hint {} = false) (hjoin : ∀ a b, hint (Hints.join a b) = (hint a || hint b))
    (hsite : ∀ q ∈ reaching.reach s, hint q.head.hints = true ↔ P q) :
    hint (.joinAll
        ((Step.headsAll (Kind.areOutermost s.above) s.outline).map Head.hints)) = true ↔
      ∃ q ∈ reaching.reach s, q.isFreeFunction = true ∧ P q := by
  rw [Hints.joinAll_iff hempty hjoin]
  constructor
  · rintro ⟨_, hm, hgiven⟩
    obtain ⟨head, hhead, rfl⟩ := List.mem_map.mp hm
    obtain ⟨q, hq, hfree, rfl⟩ := (mem_headsAll h).mp hhead
    exact ⟨q, hq, hfree, (hsite q hq).mp hgiven⟩
  · rintro ⟨q, hq, hfree, hP⟩
    have hhead := (mem_headsAll h).mpr ⟨q, hq, hfree, rfl⟩
    exact ⟨_, List.mem_map_of_mem hhead, (hsite q hq).mpr hP⟩

end HeadHints

end Site

namespace Node

/-- Where the named children lead from the root, and what hangs off the paths among them. -/
def reached (root : Node) : List Site := Site.reaching.reach ⟨root, [], [], []⟩

/-- The hints that a file gives are told by its tree alone: by the names of its free functions, by
what stands above them, and by the attributes before them. -/
theorem discover_hints {root : Node} (ht : ∀ m ∈ root.preorder, m.text.isSome = true)
    (hs : ∀ m ∈ root.preorder, m.kind.isSpelledOut = true → NoFunctions m.preorder)
    (hp : ∀ q ∈ root.sites, q.isPath = true → ∀ a ∈ q.asides, NoFunctions a.node.preorder) :
    ∃ d, root.discover = .ok d ∧
      (d.hints.hasMain = true ↔ ∃ s ∈ root.reached, s.isFreeFunction = true ∧ s.IsMain) ∧
      (d.hints.hasTest = true ↔
        ∃ s ∈ root.reached, s.isFreeFunction = true ∧ ¬s.IsMain ∧ s.HasAttribute "test") ∧
      (d.hints.hasProcMacro = true ↔
        ∃ s ∈ root.reached, s.isFreeFunction = true ∧ ¬s.IsMain ∧ s.HasAttribute "proc_macro") := by
  have hlegible := legible_of_isSome ht
  obtain ⟨t, hd, -, hhints⟩ := discover_of_outline hlegible
  have hmaterial : Site.material ⟨root, [], [], []⟩ = root.preorder := List.append_nil _
  have hapart : Site.FunctionsApart ⟨root, [], [], []⟩ := by
    refine ⟨?_, ?_, hp⟩ <;> rw [hmaterial]
    · exact fun m hm hn => hlegible m hm hn
    · exact hs
  have htexts : ∀ s ∈ root.reached, ∀ m ∈ s.material, m.text ≠ none := fun s hr m hm =>
    hapart.texts m (Site.material_subset_of_reach hr hm)
  have htold : (Discovery.ofSurvey t).hints =
      .joinAll ((Step.headsAll true root.outline).map Head.hints) :=
    hhints.trans (Step.hints_meaningAll {} [] root.outline)
  refine ⟨_, hd, ?_, ?_, ?_⟩ <;> rw [htold]
  · exact hapart.hint_iff rfl (fun _ _ => rfl) fun s _ => Site.hasMain_head
  · exact hapart.hint_iff rfl (fun _ _ => rfl) fun s hr => Site.hint_head (htexts s hr) rfl rfl
  · exact hapart.hint_iff rfl (fun _ _ => rfl) fun s hr => Site.hint_head (htexts s hr) rfl rfl

/-- A method `main` and one inside of a test are no entry points. -/
theorem discover_hints_of_items :
    let root := Rust.parse
      "impl A { fn main() {} }\n#[test]\nfn t() { fn main() {} }\n#[proc_macro]\nfn p() {}\n"
    (∀ m ∈ root.preorder, m.text.isSome = true) ∧
      (∀ m ∈ root.preorder, m.kind.isSpelledOut = true → NoFunctions m.preorder) ∧
      (∀ q ∈ root.sites, q.isPath = true → ∀ a ∈ q.asides, NoFunctions a.node.preorder) ∧
      root.discover = .ok ⟨[], [], [], { hasTest := true, hasProcMacro := true }⟩ ∧
      (¬∃ s ∈ root.reached, s.isFreeFunction = true ∧ s.IsMain) ∧
      (∃ s ∈ root.reached, s.isFreeFunction = true ∧ ¬s.IsMain ∧ s.HasAttribute "test") ∧
      ∃ s ∈ root.reached, s.isFreeFunction = true ∧ ¬s.IsMain ∧ s.HasAttribute "proc_macro" := by
  intro root
  obtain ⟨ht, hs, hp, hfound⟩ : (∀ m ∈ root.preorder, m.text.isSome = true) ∧
      (∀ m ∈ root.preorder, m.kind.isSpelledOut = true → NoFunctions m.preorder) ∧
      (∀ q ∈ root.sites, q.isPath = true → ∀ a ∈ q.asides, NoFunctions a.node.preorder) ∧
      root.discover = .ok ⟨[], [], [], { hasTest := true, hasProcMacro := true }⟩ := by
    decide +kernel
  obtain ⟨d, hd, hmain, htest, hmacro⟩ := discover_hints ht hs hp
  rw [hfound] at hd
  cases hd
  exact ⟨ht, hs, hp, hfound, fun h => Bool.false_ne_true (hmain.mpr h), htest.mp rfl, hmacro.mp rfl⟩

def naming : Site.Walk := ⟨Site.namedChildren, fun _ _ => Site.weight_lt_of_namedChild⟩

/-- What hangs off a path is visited whether or not it is a named node, so an entry point is found
where no named children lead. -/
theorem discover_hints_of_unnamed :
    let main := worded .functionItem none "fn main() \x7b\x7d"
      [worded .identifier (some "name") "main" []]
    let label : Label := { kind := .other "bracketed_type", named := false, text := some "" }
    let type := Node.mk { label with field := some "path" } [main]
    let root := worded .sourceFile none ""
      [worded .scopedIdentifier none "x::y" [type, worded .identifier (some "name") "y" []]]
    (∀ m ∈ root.preorder, m.text.isSome = true) ∧
      (∀ m ∈ root.preorder, m.kind.isSpelledOut = true → NoFunctions m.preorder) ∧
      (∀ q ∈ root.sites, q.isPath = true → ∀ a ∈ q.asides, NoFunctions a.node.preorder) ∧
      (∀ s ∈ naming.reach ⟨root, [], [], []⟩, s.isFreeFunction = false) ∧
      root.discover = .ok ⟨[], [], [], { hasMain := true }⟩ := by
  decide +kernel

end Node
end CrateUsage
