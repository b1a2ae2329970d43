import CrateUsage.Proofs.LongerFiles

namespace CrateUsage

structure Reading.Reorders (r q : Reading) : Prop where
  emitted : q.emitted.Perm r.emitted
  visible : q.visible = r.visible
  hints : q.hints = r.hints

theorem Hints.join_comm (a b : Hints) : a.join b = b.join a := by
  simp [join, Bool.or_comm]

namespace Meaning

def Reorders (a b : Meaning) : Prop := ∀ c visible, (a c visible).Reorders (b c visible)

variable {a b p q : Meaning}

theorem Reorders.refl (a : Meaning) : Reorders a a := fun _ _ => ⟨.rfl, rfl, rfl⟩

theorem Reorders.andThen (h : Reorders a b) (g : Reorders p q) :
    Reorders (a.andThen p) (b.andThen q) := by
  intro c visible
  obtain ⟨he, hv, hh⟩ := h c visible
  obtain ⟨ge, gv, gh⟩ := g c (a c visible).visible
  simp only [Meaning.andThen, hv]
  refine ⟨he.append ge, gv, ?_⟩
  rw [hh, gh]

def Closed (a : Meaning) : Prop := ∀ c visible, (a c visible).visible = visible

theorem closed_freeFunction (name : Option String) (markers : Markers) (body : Meaning) :
    Closed (freeFunction name markers body) := by
  intro c visible
  unfold freeFunction
  split <;> rfl

/-- Neither of two such parts sees whether the other was read before it. -/
theorem Closed.reorders (ha : Closed a) (hb : Closed b) :
    Reorders (a.andThen b) (b.andThen a) := by
  intro c visible
  refine ⟨?_, ?_, ?_⟩
  · simp only [Meaning.andThen, ha c visible, hb c visible]
    exact List.perm_append_comm
  · simp only [Meaning.andThen, ha c visible, hb c visible]
  · simp only [Meaning.andThen, ha c visible, hb c visible]
    exact Hints.join_comm _ _

theorem Closed.reorders_between (ha : Closed a) (hb : Closed b) (before after : Meaning) :
    Reorders (before.andThen (a.andThen (b.andThen after)))
      (before.andThen (b.andThen (a.andThen after))) := by
  rw [← andThen_assoc a b after, ← andThen_assoc b a after]
  exact (Reorders.refl before).andThen ((ha.reorders hb).andThen (.refl after))

end Meaning

namespace Ledger

/-- Which names are entered does not hang on the order of the references. -/
theorem names_enterAll_of_perm {rs qs : List Record} (h : qs.Perm rs) (build : Build) :
    ((({} : Ledger).enterAll qs).names build).Perm ((({} : Ledger).enterAll rs).names build) := by
  apply (List.perm_ext_iff_of_nodup (nodup_enterAll_empty qs build)
    (nodup_enterAll_empty rs build)).mpr
  intro name
  rw [mem_names_enterAll_empty, mem_names_enterAll_empty]
  simp only [h.mem_iff]

end Ledger

namespace Usage

theorem crates_of_perm {ns ms : List String} (h : ns.Perm ms) : crates ns = crates ms :=
  Text.sorted_eq_of_perm (h.filter _)

theorem ofDiscovery_of_perm {d e : Discovery} (hn : e.normal.Perm d.normal)
    (ht : e.testOnly.Perm d.testOnly) :
    (ofDiscovery e).normal = (ofDiscovery d).normal ∧
      (ofDiscovery e).testOnly = (ofDiscovery d).testOnly := by
  refine ⟨crates_of_perm hn, crates_of_perm ?_⟩
  have hleft : (fun name => !e.normal.contains name) = fun name => !d.normal.contains name := by
    funext name
    rw [Bool.eq_iff_iff]
    simp [hn.mem_iff]
  rw [hleft]
  exact ht.filter _

end Usage

namespace Node

/-- A free function with the attributes and comments before it. Tokens may stand among them. -/
structure IsFunctionGroup (group : List Node) : Prop where
  function : ∃ decorations function, group = decorations ++ [function] ∧
    (∀ d ∈ decorations, d.named = true → d.isDecoration = true) ∧
    function.named = true ∧ function.kind = .functionItem
  comments : ∀ c ∈ group, c.kind.isComment = true → c.children = []

/-- A function is behind all attributes of its group. -/
theorem IsFunctionGroup.isSettled {group : List Node} (h : IsFunctionGroup group) :
    IsSettled group := by
  obtain ⟨decorations, function, rfl, -, hn, hk⟩ := h.function
  intro last hl
  have hlast : (decorations ++ [function]).filter (fun n => n.named && !n.kind.isComment) =
      decorations.filter (fun n => n.named && !n.kind.isComment) ++ [function] := by
    simp [hn, hk, Kind.isComment]
  rw [hlast, List.getLast?_concat] at hl
  rw [← Option.some.inj hl, hk]
  exact Kind.noConfusion

end Node

namespace Outline

/-- By induction on what stands before the function: the function reads it, and nothing else of the
group says anything. -/
theorem ofChildren_function {decorations : List Node} {function : Node}
    (hd : ∀ d ∈ decorations, d.named = true → d.isDecoration = true)
    (hc : ∀ c ∈ decorations, c.kind.isComment = true → c.children = [])
    (hn : function.named = true) (hk : function.kind = .functionItem) {p : Place}
    (hp : Node.isFree p.above = true) :
    ∃ name markers body,
      ofChildren .every p (decorations ++ [function]) = [.function name markers body] := by
  induction decorations generalizing p with
  | nil =>
    have hsaid : ofChildren .every p ([] ++ [function]) =
        [.function ((function.child? "name").map Node.read) (Outline.markers p)
          (attributesSay p ++ ofChildren .every (p.below .functionItem) function.children)] := by
      rw [List.nil_append, ofChildren_every_cons, if_pos hn, ofNode_eq, hk]
      simp only [hp, if_true]
      rfl
    exact ⟨_, _, _, hsaid⟩
  | cons d ds ih =>
    have hds := fun e he => hd e (List.mem_cons_of_mem _ he)
    have hcs := fun e he => hc e (List.mem_cons_of_mem _ he)
    have hsilent : (if d.named then ofNode false p (ds ++ [function]) d else []) = [] := by
      split
      · rename_i hnamed
        by_cases ha : d.kind = .attributeItem
        · have howned : Node.isOwned p.above (ds ++ [function]) = true := by
            have hnone : Node.decorated? ds = none := by
              apply List.find?_eq_none.mpr
              intro e he
              obtain ⟨he, hne⟩ := List.mem_filter.mp he
              simp [hds e he hne]
            rw [Node.isOwned, Node.decorated?_append, hnone, Node.decorated?_cons]
            simp [hn, hk, hp, Node.isDecoration, Kind.isComment, Node.ownsAttributes]
          unfold Node.isOwned at howned
          rw [ofNode_eq, ha]
          exact if_pos howned
        · have hcomment : d.kind.isComment = true := by
            simpa [Node.isDecoration, ha] using hd d List.mem_cons_self hnamed
          exact ofNode_comment hcomment (hc d List.mem_cons_self hcomment) p _
      · rfl
    rw [List.cons_append, ofChildren_every_cons, hsilent, List.nil_append]
    apply ih hds hcs
    rw [Place.above_behind, hp]

end Outline

namespace Node

theorem IsFunctionGroup.outline_eq {group : List Node} (h : IsFunctionGroup group) {l : Label}
    (hl : l.kind = .sourceFile) :
    ∃ name markers body, (Node.mk l group).outline = [.function name markers body] := by
  have hc := h.comments
  obtain ⟨decorations, function, rfl, hd, hn, hk⟩ := h.function
  rw [outline_of_sourceFile hl]
  exact Outline.ofChildren_function hd
    (fun c hm => hc c (List.mem_append_left _ hm)) hn hk rfl

/-- What a function group means is closed: it is read in a scope of its own. -/
theorem IsFunctionGroup.closed {group : List Node} (h : IsFunctionGroup group) {l : Label}
    (hl : l.kind = .sourceFile) : (Step.meaningAll (Node.mk l group).outline).Closed := by
  obtain ⟨name, markers, body, ho⟩ := h.outline_eq hl
  rw [ho, Step.meaningAll_singleton]
  exact Meaning.closed_freeFunction _ _ _

/-- Functions can change places: a file with two neighbouring functions exchanged, each with its
attributes and comments, comes to the same crates for every build and for the tests, to the same
hints, and to the same usage. -/
theorem discover_exchanged_functions {l k : Label} (hl : l.kind = .sourceFile)
    (hk : k.kind = .sourceFile) {before first second after : List Node} (hb : IsSettled before)
    (hf : IsFunctionGroup first) (hs : IsFunctionGroup second)
    (ht : ∀ m ∈ (mk l (before ++ (first ++ (second ++ after)))).preorder, m.text.isSome = true)
    (hkt : k.text.isSome = true) :
    ∃ d e, (mk l (before ++ (first ++ (second ++ after)))).discover = .ok d ∧
      (mk k (before ++ (second ++ (first ++ after)))).discover = .ok e ∧
      e.normal.Perm d.normal ∧ e.testOnly.Perm d.testOnly ∧ e.hints = d.hints ∧
      (Usage.ofDiscovery e).normal = (Usage.ofDiscovery d).normal ∧
      (Usage.ofDiscovery e).testOnly = (Usage.ofDiscovery d).testOnly := by
  have hlegible := legible_of_isSome ht
  have hexchanged : (mk k (before ++ (second ++ (first ++ after)))).Legible := by
    apply legible_mk hkt
    intro c hc
    apply hlegible.child
    simp only [children_mk, List.mem_append] at hc ⊢
    exact hc.imp_right or_left_comm.mp
  obtain ⟨s, hd, hsl, hsh⟩ := discover_of_outline hlegible
  obtain ⟨t, he, htl, hth⟩ := discover_of_outline hexchanged
  have hparts : ∀ {j : Label} {a b : List Node}, j.kind = .sourceFile → IsFunctionGroup a →
      IsFunctionGroup b → (mk j (before ++ (a ++ (b ++ after)))).outline =
        (mk l before).outline ++
          ((mk l a).outline ++ ((mk l b).outline ++ (mk l after).outline)) := by
    intro j a b hj ha hb'
    rw [outline_append hl hj hb, outline_append hl hj ha.isSettled,
      outline_append hl hj hb'.isSettled, outline_of_sourceFile hj after,
      outline_of_sourceFile hl after]
  have hmeaning : (Step.meaningAll (mk l (before ++ (first ++ (second ++ after)))).outline).Reorders
      (Step.meaningAll (mk k (before ++ (second ++ (first ++ after)))).outline) := by
    rw [hparts hl hf hs, hparts hk hs hf]
    simp only [Step.meaningAll_append]
    exact (hf.closed hl).reorders_between (hs.closed hl) _ _
  obtain ⟨hemitted, -, hhints⟩ := hmeaning {} []
  have hnames : ∀ build, (t.ledger.names build).Perm (s.ledger.names build) := by
    intro build
    rw [hsl, htl]
    exact Ledger.names_enterAll_of_perm hemitted build
  have husage := Usage.ofDiscovery_of_perm (d := .ofSurvey s) (e := .ofSurvey t)
    (hnames .normal) (hnames .testOnly)
  refine ⟨_, _, hd, he, hnames .normal, hnames .testOnly, ?_, husage⟩
  change t.hints = s.hints
  rw [hsh, hth, hhints]

/-- A test that needs `regex` and the entry point, which hides `rand` by a module of its own, change
places: `rand` is hidden from neither the test nor the rest of the file. -/
theorem discover_exchanged_tests :
    let label : Label := { kind := .sourceFile, text := some "" }
    let named := fun name body => worded .functionItem none ""
      [worded .identifier (some "name") name [], worded .block (some "body") "" body]
    let mark := worded .attributeItem none "" [
      worded .attributeBody none "" [worded .identifier none "test" []]]
    let comment := worded .lineComment none "//" []
    let checks := named "checks" [twoSegments none "regex" "Regex", twoSegments none "rand" "random"]
    let entry := named "main" [
      worded .modItem none "" [worded .identifier (some "name") "rand" []],
      twoSegments none "rand" "random"]
    let first := [mark, comment, checks]
    let second := [entry]
    let after := [twoSegments none "serde" "Value"]
    IsSettled [] ∧ IsFunctionGroup first ∧ IsFunctionGroup second ∧
      (∀ m ∈ (mk label ([] ++ (first ++ (second ++ after)))).preorder, m.text.isSome = true) ∧
      ∃ d e, (mk label ([] ++ (first ++ (second ++ after)))).discover = .ok d ∧
        (mk label ([] ++ (second ++ (first ++ after)))).discover = .ok e ∧
        d.normal = ["serde"] ∧ d.testOnly = ["regex", "rand"] ∧
        d.hints = { hasMain := true, hasTest := true } ∧
        e.normal.Perm ["serde"] ∧ e.testOnly.Perm ["regex", "rand"] ∧ e.hints = d.hints := by
  intro label named mark comment checks entry first second after
  have hf : IsFunctionGroup first :=
    ⟨⟨[mark, comment], checks, rfl, by decide, rfl, rfl⟩, by decide⟩
  have hs : IsFunctionGroup second :=
    ⟨⟨[], entry, rfl, by decide, rfl, rfl⟩, by decide⟩
  have ht : ∀ m ∈ (mk label ([] ++ (first ++ (second ++ after)))).preorder,
      m.text.isSome = true := by decide
  obtain ⟨d, e, hd, he, hn, htests, hh, -⟩ :=
    discover_exchanged_functions (l := label) (k := label) rfl rfl isSettled_nil hf hs ht rfl
  have hfound : (mk label ([] ++ (first ++ (second ++ after)))).discover.toOption = some
      { normal := ["serde"], testOnly := ["regex", "rand"],
        records := [⟨"regex", .testOnly, some 1⟩, ⟨"rand", .testOnly, some 1⟩,
          ⟨"serde", .normal, some 1⟩],
        hints := { hasMain := true, hasTest := true } } := by decide +kernel
  rw [hd] at hfound
  cases hfound
  exact ⟨isSettled_nil, hf, hs, ht, _, e, hd, he, rfl, rfl, rfl, hn, htests, hh⟩

end Node
end CrateUsage
