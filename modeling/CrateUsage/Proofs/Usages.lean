import CrateUsage.Analysis
import CrateUsage.Proofs.Sightings

namespace CrateUsage

def Discovery.names (d : Discovery) : Build → List String
  | .normal => d.normal
  | .testOnly => d.testOnly

namespace Usage

def BeginsLowercase (name : String) : Prop :=
  ∃ c rest, name.toList = c :: rest ∧ Text.isLowercase c = true

theorem isCrateName_iff (name : String) : isCrateName name = true ↔ BeginsLowercase name := by
  unfold isCrateName BeginsLowercase
  cases name.toList with
  | nil => simp
  | cons c rest => simp

theorem mem_crates {names : List String} {name : String} :
    name ∈ crates names ↔ name ∈ names ∧ BeginsLowercase name := by
  rw [crates, Text.mem_sorted, List.mem_filter, isCrateName_iff]

theorem pairwise_lt_crates {names : List String} (h : names.Nodup) :
    (crates names).Pairwise (· < ·) :=
  Text.pairwise_lt_sorted (h.filter _)

theorem mem_normal {d : Discovery} {name : String} :
    name ∈ (ofDiscovery d).normal ↔ name ∈ d.normal ∧ BeginsLowercase name :=
  mem_crates

theorem mem_testOnly {d : Discovery} {name : String} :
    name ∈ (ofDiscovery d).testOnly ↔
      name ∈ d.testOnly ∧ name ∉ d.normal ∧ BeginsLowercase name := by
  have hm : name ∈ (ofDiscovery d).testOnly ↔
      name ∈ d.testOnly.filter (!d.normal.contains ·) ∧ BeginsLowercase name := mem_crates
  rw [hm, List.mem_filter, and_assoc]
  simp

theorem pairwise_lt_names {d : Discovery} (h : ∀ build, (d.names build).Nodup) :
    ∀ build, ((ofDiscovery d).names build).Pairwise (· < ·)
  | .normal => pairwise_lt_crates (h .normal)
  | .testOnly => pairwise_lt_crates ((h .testOnly).filter _)

theorem not_mem_testOnly {d : Discovery} {name : String} (h : name ∈ (ofDiscovery d).normal) :
    name ∉ (ofDiscovery d).testOnly :=
  fun ht => (mem_testOnly.mp ht).2.1 (mem_normal.mp h).1

theorem names_subset (d : Discovery) : ∀ build, (ofDiscovery d).names build ⊆ d.names build
  | .normal => fun _ h => (mem_normal.mp h).1
  | .testOnly => fun _ h => (mem_testOnly.mp h).1

/-- The records that are kept are those of the names that are reported. -/
theorem records_ofDiscovery (d : Discovery) :
    (ofDiscovery d).records =
      d.records.filter fun r => ((ofDiscovery d).names r.build).contains r.name := by
  refine List.filter_congr fun r _ => ?_
  cases r.build <;> rfl

/-- Every reported name is that of exactly one record for its kind of build, and no other record is
kept. -/
theorem names_records {d : Discovery} (h : ∀ build, (d.names build).Nodup)
    (hr : ∀ build, d.names build = (d.records.filter (·.build = build)).map Record.name)
    (build : Build) :
    (((ofDiscovery d).records.filter (·.build = build)).map Record.name).Perm
      ((ofDiscovery d).names build) := by
  have hk : ((ofDiscovery d).records.filter (·.build = build)).map Record.name =
      (d.names build).filter ((ofDiscovery d).names build).contains := by
    rw [records_ofDiscovery, List.filter_filter, hr, List.filter_map, List.filter_filter]
    congr 1
    refine List.filter_congr fun r _ => ?_
    by_cases hb : r.build = build
    · simp [hb]
    · simp [hb]
  have hn : ((ofDiscovery d).names build).Nodup :=
    (pairwise_lt_names h build).imp String.ne_of_lt
  rw [hk, List.perm_ext_iff_of_nodup ((h build).filter _) hn]
  intro name
  rw [List.mem_filter, List.contains_iff_mem]
  exact ⟨And.right, fun hm => ⟨names_subset d build hm, hm⟩⟩

/-- What is reported of a reported name is its first record. -/
theorem find?_records {d : Discovery} {name : String} {build : Build}
    (h : name ∈ (ofDiscovery d).names build) :
    ((ofDiscovery d).records.find? fun r => r.name = name && r.build = build) =
      d.records.find? fun r => r.name = name && r.build = build := by
  rw [records_ofDiscovery, List.find?_filter]
  congr 1
  funext r
  cases hr : decide (r.name = name) && decide (r.build = build) with
  | false => simp
  | true =>
    simp only [Bool.and_eq_true, decide_eq_true_iff] at hr
    simp [hr, h]

/-- A name that is not reported for a kind of build has no line there. -/
theorem firstLine_eq_none {d : Discovery} {name : String} {build : Build}
    (h : name ∉ (ofDiscovery d).names build) : (ofDiscovery d).firstLine name build = none := by
  have hf : ((ofDiscovery d).records.find? fun r => r.name = name && r.build = build) = none := by
    rw [records_ofDiscovery, List.find?_filter, List.find?_eq_none]
    intro r _ hr
    simp only [List.contains_iff_mem, Bool.and_eq_true, decide_eq_true_iff] at hr
    obtain ⟨hk, rfl, rfl⟩ := hr
    exact h hk
  rw [firstLine, hf]
  rfl

end Usage

section OfTree

variable {root : Node} {d : Discovery}

/-- Names and records of a discovery go together, and no name is entered twice. -/
theorem Node.names_of_discover (h : root.discover = .ok d) (build : Build) :
    (d.names build).Nodup ∧
      d.names build = (d.records.filter (·.build = build)).map Record.name := by
  obtain ⟨t, rfl, ht⟩ := ledger_of_discover h
  have hn : (Discovery.ofSurvey t).names build = t.ledger.names build := by cases build <;> rfl
  rw [hn, ht]
  refine ⟨Ledger.nodup_enterAll_empty _ build, ?_⟩
  change _ = (t.ledger.records.filter _).map _
  rw [ht]
  exact (Ledger.balanced_empty.enterAll _).names_eq build

theorem Node.records_of_discover (h : root.discover = .ok d) :
    d.records = firstSightings root.sightings := by
  obtain ⟨t, rfl, ht⟩ := ledger_of_discover h
  change t.ledger.records = _
  rw [ht, Ledger.records_enterAll_empty]

/-- A reported name has the line of the first reference to it that counted for that kind of
build. -/
theorem Node.firstLine_of_discover (h : root.discover = .ok d) {name : String} {build : Build}
    (hm : name ∈ (Usage.ofDiscovery d).names build) :
    ∃ line, (Usage.ofDiscovery d).firstLine name build = some line ∧
      (root.sightings.find? fun r => r.name = name && r.build = build) =
        some ⟨name, build, some line⟩ := by
  have hfind := Usage.find?_records hm
  rw [records_of_discover h, find?_firstSightings] at hfind
  obtain ⟨hn, hr⟩ := names_of_discover h build
  have hmem := Usage.names_subset d build hm
  rw [hr, records_of_discover h] at hmem
  obtain ⟨q, hq, rfl⟩ := List.mem_map.mp hmem
  obtain ⟨hq, hb⟩ := List.mem_filter.mp hq
  cases hs : root.sightings.find? fun r => r.name = q.name && r.build = build with
  | none =>
    have hne := List.find?_eq_none.mp hs q (mem_of_firstSightings hq)
    simp only [hb, decide_true, Bool.and_self, not_true_eq_false] at hne
  | some r =>
    obtain ⟨line, hl⟩ := Step.line_of_sightingAll root.outline (List.mem_of_find?_eq_some hs)
    have hp := List.find?_some hs
    simp only [Bool.and_eq_true, decide_eq_true_iff] at hp
    refine ⟨line, ?_, ?_⟩
    · rw [Usage.firstLine, hfind, hs]
      exact hl
    · rw [← hp.1, ← hp.2, ← hl]

/-- A usage reports the names of a discovery that a crate can have, those for tests alone unless
every build needs them; each of its records is that of one reported name, and shows the line of the
first reference that counted. -/
theorem Node.usage_of_discover (h : root.discover = .ok d) :
    let u := Usage.ofDiscovery d
    (∀ file, root.syntaxError? = none → (Analysis.ofTree file root).1 = .ok u) ∧
    (∀ name, name ∈ u.normal ↔ name ∈ d.normal ∧ Usage.BeginsLowercase name) ∧
    (∀ name, name ∈ u.testOnly ↔
      name ∈ d.testOnly ∧ name ∉ d.normal ∧ Usage.BeginsLowercase name) ∧
    u.normal.Pairwise (· < ·) ∧ u.testOnly.Pairwise (· < ·) ∧
    (∀ name ∈ u.normal, name ∉ u.testOnly) ∧
    u.records.Sublist d.records ∧
    (∀ build, ((u.records.filter (·.build = build)).map Record.name).Perm (u.names build)) ∧
    (∀ build, ∀ name ∈ u.names build, ∃ line, u.firstLine name build = some line ∧
      (root.sightings.find? fun r => r.name = name && r.build = build) =
        some ⟨name, build, some line⟩) ∧
    (∀ name ∈ u.normal, u.firstLine name .testOnly = none) := by
  intro u
  have hn := fun build => (names_of_discover h build).1
  have hr := fun build => (names_of_discover h build).2
  refine ⟨?_, fun _ => Usage.mem_normal, fun _ => Usage.mem_testOnly,
    Usage.pairwise_lt_names hn .normal, Usage.pairwise_lt_names hn .testOnly,
    fun _ => Usage.not_mem_testOnly, ?_, Usage.names_records hn hr,
    fun build name hm => firstLine_of_discover h hm,
    fun name hm => Usage.firstLine_eq_none (Usage.not_mem_testOnly hm)⟩
  · intro file hs
    unfold discover at h
    unfold Analysis.ofTree
    rw [hs]
    cases hv : root.survey with
    | mk stop s =>
      rw [hv] at h
      cases stop with
      | some fault => cases h
      | none =>
        cases h
        rfl
  · exact List.filter_sublist

end OfTree

/-- A crate that the tests use as well is reported once, and a type not at all. -/
theorem Node.usage_tests :
    let root := worded .sourceFile none ""
      (worded .useDeclaration none "" [twoSegments (some "argument") "rand" "Rng"] ::
        testModule [twoSegments none "regex" "Regex", twoSegments none "rand" "random",
          twoSegments none "Vec" "new"])
    ∃ d, root.discover = .ok d ∧ "rand" ∈ d.testOnly ∧ "Vec" ∈ d.testOnly ∧
      (Usage.ofDiscovery d).normal = ["rand"] ∧ (Usage.ofDiscovery d).testOnly = ["regex"] ∧
      (Usage.ofDiscovery d).firstLine "regex" .testOnly = some 1 ∧
      (Usage.ofDiscovery d).firstLine "rand" .testOnly = none := by
  intro root
  let d : Discovery :=
    { normal := ["rand"], testOnly := ["regex", "rand", "Vec"],
      records := [⟨"rand", .normal, some 1⟩, ⟨"regex", .testOnly, some 1⟩,
        ⟨"rand", .testOnly, some 1⟩, ⟨"Vec", .testOnly, some 1⟩],
      hints := {} }
  have hd : root.discover = .ok d := by rfl
  have hn : (Usage.ofDiscovery d).normal = ["rand"] := by cbv
  have ht : (Usage.ofDiscovery d).testOnly = ["regex"] := by cbv
  obtain ⟨-, -, -, -, -, -, -, -, hlines, hnone⟩ := usage_of_discover hd
  have hregex : "regex" ∈ (Usage.ofDiscovery d).testOnly := ht ▸ List.mem_singleton.mpr rfl
  refine ⟨d, hd, by decide, by decide, hn, ht, ?_, hnone "rand" (hn ▸ List.mem_singleton.mpr rfl)⟩
  obtain ⟨line, hl, hs⟩ := hlines .testOnly "regex" hregex
  rw [hl]
  have hline : root.sightings.find? (fun r => r.name = "regex" && r.build = .testOnly) =
      some ⟨"regex", .testOnly, some 1⟩ := by rfl
  rw [hline] at hs
  cases hs
  rfl

end CrateUsage
