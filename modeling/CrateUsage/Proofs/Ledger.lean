import CrateUsage.Reference

namespace CrateUsage

def Record.repeats (r q : Record) : Bool := r.name = q.name && r.build = q.build

theorem Record.repeats_iff {r q : Record} :
    r.repeats q = true ↔ r.name = q.name ∧ r.build = q.build := by
  simp [repeats]

theorem Record.repeats_right {q r p : Record} (h : q.repeats r = true) :
    p.repeats q = p.repeats r := by
  obtain ⟨hn, hb⟩ := repeats_iff.mp h
  simp [repeats, hn, hb]

theorem Record.repeats_left {q r p : Record} (h : q.repeats r = true) :
    q.repeats p = r.repeats p := by
  obtain ⟨hn, hb⟩ := repeats_iff.mp h
  simp [repeats, hn, hb]

/-- Sightings in their order, every later repetition removed. -/
def firstSightings : List Record → List Record
  | [] => []
  | r :: rs => r :: (firstSightings rs).filter fun q => !r.repeats q

theorem mem_of_firstSightings {rs : List Record} {r : Record} (h : r ∈ firstSightings rs) :
    r ∈ rs := by
  induction rs with
  | nil => cases h
  | cons q rs ih =>
    rcases List.mem_cons.mp h with rfl | h
    · exact List.mem_cons_self
    · exact List.mem_cons_of_mem _ (ih (List.mem_filter.mp h).1)

/-- Nothing that was seen goes missing: some sighting of it is the first. -/
theorem exists_firstSighting {rs : List Record} {r : Record} (h : r ∈ rs) :
    ∃ q ∈ firstSightings rs, q.repeats r = true := by
  induction rs with
  | nil => cases h
  | cons p rs ih =>
    by_cases hp : p.repeats r = true
    · exact ⟨p, List.mem_cons_self, hp⟩
    · rcases List.mem_cons.mp h with rfl | h
      · exact absurd (by simp [Record.repeats]) hp
      · obtain ⟨q, hq, he⟩ := ih h
        refine ⟨q, List.mem_cons_of_mem _ (List.mem_filter.mpr ⟨hq, ?_⟩), he⟩
        rw [Record.repeats_right he]
        simpa using hp

/-- A choice of sightings that does not tell repetitions apart may be made before or after the
first ones are taken. -/
theorem firstSightings_filter_of_repeats {p : Record → Bool}
    (hp : ∀ r q : Record, r.repeats q = true → p r = p q) (rs : List Record) :
    (firstSightings rs).filter p = firstSightings (rs.filter p) := by
  induction rs with
  | nil => rfl
  | cons r rs ih =>
    cases hr : p r with
    | true =>
      rw [List.filter_cons_of_pos hr, firstSightings, firstSightings, ← ih,
        List.filter_cons_of_pos hr, List.filter_filter, List.filter_filter]
      simp only [Bool.and_comm]
    | false =>
      rw [List.filter_cons_of_neg (by simp [hr]), firstSightings, ← ih,
        List.filter_cons_of_neg (by simp [hr]), List.filter_filter]
      refine List.filter_congr fun q _ => ?_
      cases hq : r.repeats q with
      | true => simp [← hp r q hq, hr]
      | false => simp

/-- The first sightings for one kind of build are told from those for the other. -/
theorem firstSightings_filter (build : Build) (rs : List Record) :
    (firstSightings rs).filter (·.build = build) =
      firstSightings (rs.filter (·.build = build)) :=
  firstSightings_filter_of_repeats (fun _ _ h => by rw [(Record.repeats_iff.mp h).2]) rs

/-- The first sighting of a name for a kind of build is the first one that the sightings have. -/
theorem find?_firstSightings (rs : List Record) (name : String) (build : Build) :
    (firstSightings rs).find? (fun r => r.name = name && r.build = build) =
      rs.find? fun r => r.name = name && r.build = build := by
  induction rs with
  | nil => rfl
  | cons r rs ih =>
    rw [firstSightings, List.find?_cons, List.find?_cons]
    cases hr : decide (r.name = name) && decide (r.build = build) with
    | true => rfl
    | false =>
      dsimp only
      rw [List.find?_filter, ← ih]
      congr 1
      funext q
      cases hq : decide (q.name = name) && decide (q.build = build) with
      | false => simp
      | true =>
        have hne : r.repeats q = false := by
          simp only [Bool.and_eq_true, decide_eq_true_iff] at hq
          rw [Record.repeats, hq.1, hq.2, hr]
        simp [hne]

namespace Ledger

/-- The names of each build are those of its records, in the order of the records. -/
structure Balanced (l : Ledger) : Prop where
  names_eq : ∀ build, l.names build = (l.records.filter (·.build = build)).map Record.name

theorem balanced_empty : ({} : Ledger).Balanced := ⟨fun build => by cases build <;> rfl⟩

theorem Balanced.holds_iff {l : Ledger} (h : l.Balanced) (build : Build) (name : String) :
    l.holds build name = true ↔ ∃ r ∈ l.records, r.build = build ∧ r.name = name := by
  unfold holds
  rw [h.names_eq, List.contains_iff_mem]
  simp [and_assoc]

theorem Balanced.any_repeats_eq {l : Ledger} (h : l.Balanced) (r : Record) :
    l.records.any (·.repeats r) = l.holds r.build r.name := by
  rw [Bool.eq_iff_iff, h.holds_iff, List.any_eq_true]
  simp only [Record.repeats_iff, and_comm]

theorem records_enter {l : Ledger} {r : Record} (h : l.holds r.build r.name = false) :
    (l.enter r).records = l.records ++ [r] := by
  unfold enter
  rw [h]
  cases r.build <;> rfl

theorem enter_of_holds {l : Ledger} {r : Record} (h : l.holds r.build r.name = true) :
    l.enter r = l := by
  unfold enter
  rw [h]
  rfl

theorem Balanced.enter {l : Ledger} (h : l.Balanced) (r : Record) : (l.enter r).Balanced := by
  cases hh : l.holds r.build r.name with
  | true =>
    rw [enter_of_holds hh]
    exact h
  | false =>
    refine ⟨fun build => ?_⟩
    have hb := h.names_eq build
    rw [records_enter hh, List.filter_append, List.map_append, ← hb]
    unfold Ledger.enter
    rw [hh]
    cases hr : r.build <;> cases build <;> simp [names, hr]

def enterAll (l : Ledger) (rs : List Record) : Ledger := rs.foldl enter l

theorem enterAll_append (l : Ledger) (a b : List Record) :
    l.enterAll (a ++ b) = (l.enterAll a).enterAll b :=
  List.foldl_append

theorem Balanced.enterAll {l : Ledger} (h : l.Balanced) (rs : List Record) :
    (l.enterAll rs).Balanced := by
  induction rs generalizing l with
  | nil => exact h
  | cons r rs ih => exact ih (h.enter r)

/-- What is entered after other records are the first sightings of what they do not hold. -/
theorem Balanced.records_enterAll {l : Ledger} (h : l.Balanced) (rs : List Record) :
    (l.enterAll rs).records =
      l.records ++ (firstSightings rs).filter fun r => !l.records.any (·.repeats r) := by
  induction rs generalizing l with
  | nil => simp [Ledger.enterAll, firstSightings]
  | cons r rs ih =>
    change ((l.enter r).enterAll rs).records = _
    rw [ih (h.enter r)]
    have hany := h.any_repeats_eq r
    cases hh : l.holds r.build r.name with
    | true =>
      rw [hh] at hany
      rw [enter_of_holds hh, firstSightings, List.filter_cons, hany, List.filter_filter]
      congr 1
      refine List.filter_congr fun p _ => ?_
      cases hp : r.repeats p with
      | false => simp
      | true =>
        obtain ⟨q, hq, hr⟩ := List.any_eq_true.mp hany
        have hl : l.records.any (·.repeats p) = true :=
          List.any_eq_true.mpr ⟨q, hq, by rw [Record.repeats_left hr, hp]⟩
        simp [hl]
    | false =>
      rw [hh] at hany
      rw [records_enter hh, firstSightings, List.filter_cons, hany, List.filter_filter]
      simp [List.any_append, Bool.and_comm]

theorem names_enter (l : Ledger) (r : Record) (build : Build) :
    (l.enter r).names build =
      if r.build = build ∧ l.holds r.build r.name = false then l.names build ++ [r.name]
      else l.names build := by
  unfold Ledger.enter
  cases hh : l.holds r.build r.name with
  | true => simp
  | false => cases hr : r.build <;> cases build <;> simp [names]

theorem nodup_enterAll {l : Ledger} {build : Build} (h : (l.names build).Nodup)
    (rs : List Record) : ((l.enterAll rs).names build).Nodup := by
  induction rs generalizing l with
  | nil => exact h
  | cons r rs ih =>
    refine ih ?_
    rw [names_enter]
    split
    · rename_i hn
      obtain ⟨rfl, hh⟩ := hn
      have hm : r.name ∉ l.names r.build := by
        intro hm
        rw [holds, List.contains_iff_mem.mpr hm] at hh
        cases hh
      refine List.nodup_append.mpr ⟨h, by simp, ?_⟩
      intro a ha b hb he
      rw [List.mem_singleton.mp hb] at he
      exact hm (he ▸ ha)
    · exact h

theorem nodup_enterAll_empty (rs : List Record) (build : Build) :
    ((({} : Ledger).enterAll rs).names build).Nodup :=
  nodup_enterAll (by cases build <;> exact List.nodup_nil) rs

theorem records_enterAll_empty (rs : List Record) :
    (({} : Ledger).enterAll rs).records = firstSightings rs := by
  simp [balanced_empty.records_enterAll rs]

theorem names_enterAll_empty (rs : List Record) (build : Build) :
    (({} : Ledger).enterAll rs).names build =
      (firstSightings (rs.filter (·.build = build))).map Record.name := by
  rw [(balanced_empty.enterAll rs).names_eq, records_enterAll_empty, firstSightings_filter]

/-- The names entered for a build are those of its sightings, each of them once. -/
theorem mem_names_enterAll_empty (rs : List Record) (build : Build) (name : String) :
    name ∈ (({} : Ledger).enterAll rs).names build ↔
      ∃ r ∈ rs, r.build = build ∧ r.name = name := by
  have hb := (balanced_empty.enterAll rs).holds_iff build name
  rw [records_enterAll_empty] at hb
  rw [← List.contains_iff_mem]
  refine hb.trans ⟨?_, ?_⟩
  · rintro ⟨r, hr, hs⟩
    exact ⟨r, mem_of_firstSightings hr, hs⟩
  · rintro ⟨r, hr, rfl, rfl⟩
    obtain ⟨q, hq, he⟩ := exists_firstSighting hr
    obtain ⟨hn, hk⟩ := Record.repeats_iff.mp he
    exact ⟨q, hq, hk, hn⟩

structure Grows (l m : Ledger) : Prop where
  records : l.records <+: m.records
  names : ∀ build, l.names build <+: m.names build

theorem Grows.refl (l : Ledger) : l.Grows l := ⟨List.prefix_rfl, fun _ => List.prefix_rfl⟩

theorem Grows.trans {l m n : Ledger} (h : l.Grows m) (g : m.Grows n) : l.Grows n :=
  ⟨h.records.trans g.records, fun build => (h.names build).trans (g.names build)⟩

theorem grows_enter (l : Ledger) (r : Record) : l.Grows (l.enter r) := by
  cases hh : l.holds r.build r.name with
  | true =>
    rw [enter_of_holds hh]
    exact .refl l
  | false =>
    refine ⟨?_, fun build => ?_⟩
    · rw [records_enter hh]
      exact List.prefix_append _ _
    · rw [names_enter]
      split
      · exact List.prefix_append _ _
      · exact List.prefix_rfl

end Ledger
end CrateUsage
