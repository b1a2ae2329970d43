import CrateUsage.Analysis
import CrateUsage.Proofs.Gaps
import CrateUsage.Proofs.ParsedText
import CrateUsage.Store.Folder
import Mathlib.Data.List.Forall2

namespace CrateUsage

namespace Analysis

theorem ofTree_of_fault {root : Node} {e : SyntaxError} (file : String)
    (h : root.syntaxError? = some e) : (ofTree file root).1 = .error (.malformed e) := by
  simp only [ofTree, h]

/-- A tree whose nodes all have a text is surveyed to its end. -/
theorem ofTree_of_texts {root : Node} (file : String)
    (ht : ∀ n ∈ root.preorder, n.text.isSome = true) (h : root.syntaxError? = none) :
    ∃ d, root.discover = .ok d ∧ (ofTree file root).1 = .ok (.ofDiscovery d) := by
  obtain ⟨d, hd⟩ := Node.discover_isOk ht
  refine ⟨d, hd, ?_⟩
  unfold Node.discover at hd
  unfold ofTree
  rw [h]
  cases hs : root.survey with
  | mk fault s =>
    rw [hs] at hd
    cases fault with
    | some fault => cases hd
    | none =>
      cases hd
      rfl

end Analysis

namespace Batch

/-- What the analysis of a file tells: why it cannot be read, the first fault of its text, or the
crates that it uses. Of the store, nothing but the bytes at this path have a say in it. -/
structure Reports (parse : Parser) (store : Store) (path : FilePath) (a : FileAnalysis) : Prop where
  named : a.path = path
  alone : ∀ other : Store, other.bytes path = store.bytes path →
    (analyses other [path] parse).1 = .ok [a]
  decided : (∃ usage, a.outcome = .ok usage) ∨ ∃ text, a.outcome = .error (some text)
  unread : ∀ f, store.read path = .error f → a.outcome = .error (some (f.message path))
  malformed : ∀ text, store.read path = .ok text → ∀ e, (parse text).syntaxError? = some e →
    a.outcome = .error (some (e.message path.text))
  used : ∀ text, store.read path = .ok text → (parse text).syntaxError? = none →
    ∃ d, (parse text).discover = .ok d ∧ a.outcome = .ok (.ofDiscovery d)

section

variable {parse : Parser} {store : Store} {path : FilePath}

/-- The analyses of files, each made for itself: the first abort is the answer. -/
theorem analyses_eq_mapM (parse : Parser) (store : Store) (paths : List FilePath) :
    (analyses store paths parse).1 = paths.mapM fun path => (analysis store path parse).1 := by
  induction paths with
  | nil => rfl
  | cons path paths ih =>
    rw [List.mapM_cons, ← ih, analyses]
    cases analysis store path parse with
    | mk result log =>
      cases result with
      | error abort => rfl
      | ok a =>
        change (analyses store paths parse).1.map (a :: ·) = _
        cases (analyses store paths parse).1 <;> rfl

theorem analyses_singleton {a : FileAnalysis} (h : (analysis store path parse).1 = .ok a) :
    (analyses store [path] parse).1 = .ok [a] := by
  rw [analyses_eq_mapM, List.mapM_cons, h]
  rfl

theorem analysis_of_null (parse : Parser) (store : Store) (h : path.hasNull = true) :
    (analysis store path parse).1 = .error .nullInPath := by
  simp only [analysis, usage, h, if_true]

theorem analysis_of_unread {f : ReadFault} (hp : path.hasNull = false)
    (h : store.read path = .error f) :
    (analysis store path parse).1 = .ok ⟨path, .error (some (f.message path))⟩ := by
  simp only [analysis, usage, hp, h, Bool.false_eq_true, if_false]
  rfl

theorem analysis_of_malformed {text : String} {e : SyntaxError} (hp : path.hasNull = false)
    (h : store.read path = .ok text) (he : (parse text).syntaxError? = some e) :
    (analysis store path parse).1 = .ok ⟨path, .error (some (e.message path.text))⟩ := by
  have ht := Analysis.ofTree_of_fault path.text he
  simp only [analysis, usage, hp, h, Bool.false_eq_true, if_false]
  cases hu : Analysis.ofTree path.text (parse text) with
  | mk result log =>
    rw [hu] at ht
    subst ht
    rfl

theorem analysis_of_text (hparse : ∀ source, ∀ n ∈ (parse source).preorder, n.text.isSome = true)
    {text : String} (hp : path.hasNull = false) (h : store.read path = .ok text)
    (he : (parse text).syntaxError? = none) :
    ∃ d, (parse text).discover = .ok d ∧
      (analysis store path parse).1 = .ok ⟨path, .ok (.ofDiscovery d)⟩ := by
  obtain ⟨d, hd, ht⟩ := Analysis.ofTree_of_texts path.text (hparse text) he
  refine ⟨d, hd, ?_⟩
  simp only [analysis, usage, hp, h, Bool.false_eq_true, if_false]
  cases hu : Analysis.ofTree path.text (parse text) with
  | mk result log =>
    rw [hu] at ht
    subst ht
    rfl

/-- The store is asked for nothing but the bytes of the file. -/
theorem analysis_congr {other : Store} (h : other.bytes path = store.bytes path) :
    analysis other path parse = analysis store path parse := by
  have hread : other.read path = store.read path := by
    simp only [Store.read, h]
  simp only [analysis, usage, hread]

/-- By cases on what the file holds: its analysis is made, and it reports on the file. -/
theorem exists_reports (hparse : ∀ source, ∀ n ∈ (parse source).preorder, n.text.isSome = true)
    (store : Store) (hp : path.hasNull = false) :
    ∃ a, (analysis store path parse).1 = .ok a ∧ Reports parse store path a := by
  have halone : ∀ {a}, (analysis store path parse).1 = .ok a → ∀ other : Store,
      other.bytes path = store.bytes path → (analyses other [path] parse).1 = .ok [a] := by
    intro a ha other ho
    exact analyses_singleton (analysis_congr ho ▸ ha)
  cases hr : store.read path with
  | error f =>
    have ha : (analysis store path parse).1 = _ := analysis_of_unread hp hr
    exact ⟨_, ha, rfl, halone ha, .inr ⟨_, rfl⟩, by simp [hr], by simp [hr], by simp [hr]⟩
  | ok text =>
    cases he : (parse text).syntaxError? with
    | some e =>
      have ha := analysis_of_malformed hp hr he
      exact ⟨_, ha, rfl, halone ha, .inr ⟨_, rfl⟩, by simp [hr], by simp [hr, he],
        by simp [hr, he]⟩
    | none =>
      obtain ⟨d, hd, ha⟩ := analysis_of_text hparse hp hr he
      exact ⟨_, ha, rfl, halone ha, .inl ⟨_, rfl⟩, by simp [hr], by simp [hr, he],
        by simp [hr, hd]⟩

end

/-- Files do not disturb each other: one analysis for each path, in their order, each as if its path
were the only one, and each with either a usage or the text of an error. The one exception is a null
character in some path, which leaves nothing of all the analyses. -/
theorem analyses_isolated {parse : Parser}
    (hparse : ∀ source, ∀ n ∈ (parse source).preorder, n.text.isSome = true)
    (store : Store) (paths : List FilePath) :
    ((∀ path ∈ paths, path.hasNull = false) →
      ∃ as, (analyses store paths parse).1 = .ok as ∧
        List.Forall₂ (Reports parse store) paths as) ∧
    ((∃ path ∈ paths, path.hasNull = true) →
      (analyses store paths parse).1 = .error .nullInPath) := by
  rw [analyses_eq_mapM]
  induction paths with
  | nil =>
    refine ⟨fun _ => ⟨[], rfl, .nil⟩, ?_⟩
    rintro ⟨path, hp, -⟩
    cases hp
  | cons path paths ih =>
    rw [List.mapM_cons]
    cases hp : path.hasNull with
    | true =>
      rw [analysis_of_null parse store hp]
      refine ⟨fun h => ?_, fun _ => rfl⟩
      rw [h path List.mem_cons_self] at hp
      cases hp
    | false =>
      obtain ⟨a, ha, hreports⟩ := exists_reports hparse store hp
      rw [ha]
      constructor
      · intro h
        obtain ⟨as, has, hall⟩ := ih.1 fun q hq => h q (List.mem_cons_of_mem _ hq)
        exact ⟨a :: as, by rw [has]; rfl, .cons hreports hall⟩
      · rintro ⟨q, hq, hn⟩
        rcases List.mem_cons.mp hq with rfl | hq
        · rw [hp] at hn
          cases hn
        · rw [ih.2 ⟨q, hq, hn⟩]
          rfl

/-- A file that is missing, one that is not Rust, and an empty one. -/
theorem analyses_of_three :
    let store := Folder.store { files := [(["open.rs"], [0x66, 0x6e]), (["lib.rs"], [])] }
    let paths := ["gone.rs", "open.rs", "lib.rs"].map FilePath.ofString
    (∀ source, ∀ n ∈ (Rust.parse source).preorder, n.text.isSome = true) ∧
      (∀ path ∈ paths, path.hasNull = false) ∧
      ∃ gone incomplete lib, (analyses store paths).1 = .ok [gone, incomplete, lib] ∧
        gone.outcome = .error (some
          "Could not open file gone.rs: [Errno 2] No such file or directory: 'gone.rs'") ∧
        incomplete.outcome = .error (some "open.rs:1:3: syntax error") ∧
        ∃ usage, lib.outcome = .ok usage := by
  intro store paths
  have hparse := Rust.isSome_text_parse
  have hp : ∀ path ∈ paths, path.hasNull = false := by decide
  obtain ⟨as, has, hall⟩ := (analyses_isolated hparse store paths).1 hp
  obtain ⟨gone, _, hgone, hrest, rfl⟩ := List.forall₂_cons_left_iff.mp hall
  obtain ⟨incomplete, _, hopen, hlast, rfl⟩ := List.forall₂_cons_left_iff.mp hrest
  obtain ⟨lib, _, hlib, hnone, rfl⟩ := List.forall₂_cons_left_iff.mp hlast
  cases hnone
  refine ⟨hparse, hp, gone, incomplete, lib, has, ?_, ?_, ?_⟩
  · have hread : store.read (.ofString "gone.rs") = .error (.opening .absent) := by rfl
    exact (hgone.unread _ hread).trans (by rfl)
  · have hread : store.read (.ofString "open.rs") = .ok "fn" := by rfl
    have hfault : (Rust.parse "fn").syntaxError? = some ⟨1, 3, "syntax error"⟩ := by decide +kernel
    exact (hopen.malformed _ hread _ hfault).trans (by rfl)
  · have hread : store.read (.ofString "lib.rs") = .ok "" := by rfl
    have hsound : (Rust.parse "").syntaxError? = none := by decide +kernel
    obtain ⟨d, -, ho⟩ := hlib.used _ hread hsound
    exact ⟨_, ho⟩

/-- A null character in one path leaves nothing of the analysis of the other. -/
theorem analyses_of_null :
    let store := Folder.store { files := [(["b.rs"], [])] }
    let paths := ["a\x00.rs", "b.rs"].map FilePath.ofString
    ¬ ∃ as, (analyses store paths).1 = .ok as ∧
      List.Forall₂ (Reports Rust.parse store) paths as := by
  rintro store paths ⟨as, has, -⟩
  have hnull : (analyses store paths).1 = .error .nullInPath := by rfl
  rw [hnull] at has
  cases has

end Batch
end CrateUsage
