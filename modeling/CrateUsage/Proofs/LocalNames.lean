import CrateUsage.Survey

namespace CrateUsage

namespace ScopeStack

def localNames (s : ScopeStack) : List String := s.frames.reverse.flatMap Frame.names

theorem mem_localNames (s : ScopeStack) (name : String) :
    name ∈ s.localNames ↔ name ∈ s.frames.flatMap Frame.names := by
  simp [localNames]

theorem frames_eq (s : ScopeStack) : s.frames = s.top :: s.frames.tail := by
  cases hi : s.inner <;> simp [frames, top, hi]

theorem length_frames (s : ScopeStack) : s.frames.length = s.depth := by
  simp [frames, depth]

theorem frames_mapTop (s : ScopeStack) (f : Frame → Frame) :
    (s.mapTop f).frames = f s.top :: s.frames.tail := by
  cases hi : s.inner <;> simp [frames, top, mapTop, hi]

theorem frames_declare {s : ScopeStack} {name : String} (h : s.isShadowed name = false) :
    (s.declare name).frames = { s.top with names := s.top.names ++ [name] } :: s.frames.tail := by
  rw [declare, h]
  exact s.frames_mapTop _

/-- The look-up table is a function of the frames, and no name has two owners. Names come and go
last in first out, so even the order of the table follows from the frames. -/
structure Tidy (s : ScopeStack) : Prop where
  owners_eq : s.owners = s.localNames.map (·, 1)
  nodup : s.localNames.Nodup

/-- The order of the frames does not matter to whether they share a name. -/
theorem Tidy.nodup_frames {s : ScopeStack} (h : s.Tidy) :
    (s.frames.flatMap Frame.names).Nodup := by
  have hp : s.localNames.Perm (s.frames.flatMap Frame.names) :=
    (List.reverse_perm s.frames).flatMap_right Frame.names
  exact hp.nodup_iff.mp h.nodup

theorem lookup_map_one (names : List String) (name : String) :
    ((names.map (·, 1)).lookup name).isSome = true ↔ name ∈ names := by
  induction names with
  | nil => simp
  | cons n ns ih =>
    by_cases h : name = n
    · simp [h]
    · simp only [List.map_cons, List.lookup_cons, beq_false_of_ne h, List.mem_cons, h, false_or]
      exact ih

theorem acquire_map_one {names : List String} {name : String} (h : name ∉ names) :
    acquire name (names.map (·, 1)) = (names ++ [name]).map (·, 1) := by
  induction names with
  | nil => rfl
  | cons n ns ih =>
    have hne : n ≠ name := fun he => h (he ▸ List.mem_cons_self)
    have hn : name ∉ ns := fun hm => h (List.mem_cons_of_mem _ hm)
    simp [acquire, hne, ih hn]

theorem release_map_one (names : List String) (name : String) :
    release name (names.map (·, 1)) = (names.erase name).map (·, 1) := by
  induction names with
  | nil => rfl
  | cons n ns ih =>
    by_cases h : n = name
    · simp [release, h]
    · simp [release, h, ih]

/-- Releasing the names that came last, oldest first, leaves those that came before them. -/
theorem release_last (kept names : List String) (h : (kept ++ names).Nodup) :
    names.foldl (fun o n => release n o) ((kept ++ names).map (·, 1)) = kept.map (·, 1) := by
  induction names with
  | nil => simp
  | cons n ns ih =>
    obtain ⟨hk, hns, hd⟩ := List.nodup_append.mp h
    have hn : n ∉ kept := fun hm => hd n hm n List.mem_cons_self rfl
    have he : (kept ++ n :: ns).erase n = kept ++ ns := by
      rw [List.erase_append_right _ hn, List.erase_cons_head]
    rw [List.foldl_cons, release_map_one, he]
    exact ih (h.sublist (by simp))

@[simp] theorem localNames_push (s : ScopeStack) (marked : Bool) :
    (s.push marked).localNames = s.localNames := by
  simp [localNames, frames, push]

theorem localNames_pop {s : ScopeStack} {frame : Frame} {rest : List Frame}
    (h : s.inner = frame :: rest) (owners : List (String × Nat)) :
    s.localNames = { s with inner := rest, owners }.localNames ++ frame.names := by
  simp [localNames, frames, h]

theorem localNames_mapTop (s : ScopeStack) (name : String) (owners : List (String × Nat)) :
    { s.mapTop (fun f => { f with names := f.names ++ [name] }) with owners }.localNames =
      s.localNames ++ [name] := by
  change (s.mapTop _).frames.reverse.flatMap Frame.names = _
  rw [frames_mapTop, localNames, s.frames_eq]
  simp

theorem Tidy.isShadowed_iff {s : ScopeStack} (h : s.Tidy) (name : String) :
    s.isShadowed name = true ↔ name ∈ s.localNames := by
  rw [isShadowed, h.owners_eq]
  exact lookup_map_one _ name

/-- A local name is one of the innermost frame or one of the frames around it. -/
theorem Tidy.isShadowed_iff_frames {s : ScopeStack} (h : s.Tidy) (name : String) :
    s.isShadowed name = true ↔ name ∈ s.top.names ++ s.frames.tail.flatMap Frame.names := by
  rw [h.isShadowed_iff, mem_localNames, frames_eq, List.flatMap_cons]
  rfl

theorem Tidy.isShadowed_eq_false {s : ScopeStack} (h : s.Tidy) {name : String}
    (hn : name ∉ s.localNames) : s.isShadowed name = false :=
  Bool.eq_false_iff.mpr fun hs => hn ((h.isShadowed_iff name).mp hs)

theorem declare_of_shadowed {s : ScopeStack} {name : String} (h : s.isShadowed name = true) :
    s.declare name = s := by
  simp [declare, h]

theorem Tidy.localNames_declare {s : ScopeStack} (h : s.Tidy) (name : String) :
    (s.declare name).localNames =
      if name ∈ s.localNames then s.localNames else s.localNames ++ [name] := by
  by_cases hm : name ∈ s.localNames
  · rw [declare_of_shadowed ((h.isShadowed_iff name).mpr hm), if_pos hm]
  · have hs := h.isShadowed_eq_false hm
    rw [if_neg hm, declare, hs]
    exact localNames_mapTop s name _

theorem tidy_empty : ({} : ScopeStack).Tidy := ⟨rfl, by simp [localNames, frames]⟩

theorem Tidy.push {s : ScopeStack} (h : s.Tidy) (marked : Bool) : (s.push marked).Tidy :=
  ⟨by rw [localNames_push]; exact h.owners_eq, by rw [localNames_push]; exact h.nodup⟩

theorem Tidy.declare {s : ScopeStack} (h : s.Tidy) (name : String) : (s.declare name).Tidy := by
  by_cases hm : name ∈ s.localNames
  · rw [declare_of_shadowed ((h.isShadowed_iff name).mpr hm)]
    exact h
  · have hs := h.isShadowed_eq_false hm
    have hl := h.localNames_declare name
    rw [if_neg hm] at hl
    refine ⟨?_, ?_⟩
    · rw [hl, ← acquire_map_one hm, ← h.owners_eq]
      simp [ScopeStack.declare, hs]
    · rw [hl]
      exact List.nodup_append.mpr ⟨h.nodup, by simp, by
        intro a ha b hb he
        rw [List.mem_singleton.mp hb] at he
        exact hm (he ▸ ha)⟩

theorem Tidy.pop {s t : ScopeStack} {frame : Frame} (h : s.Tidy) (hp : s.pop? = some (frame, t)) :
    t.Tidy := by
  cases hi : s.inner with
  | nil => simp [pop?, hi] at hp
  | cons f rest =>
    simp only [pop?, hi, Option.some.injEq, Prod.mk.injEq] at hp
    obtain ⟨rfl, rfl⟩ := hp
    have hn := h.nodup
    rw [localNames_pop hi _] at hn
    refine ⟨?_, (List.nodup_append.mp hn).1⟩
    dsimp only
    rw [h.owners_eq, localNames_pop hi _]
    exact release_last _ _ hn

theorem lookup_acquire (name n : String) (owners : List (String × Nat)) :
    ((acquire name owners).lookup n).isSome = (decide (n = name) || (owners.lookup n).isSome) := by
  induction owners with
  | nil => by_cases h : n = name <;> simp [acquire, h]
  | cons entry rest ih =>
    obtain ⟨m, k⟩ := entry
    by_cases hm : m = name
    · subst hm
      by_cases hn : n = m
      · simp [acquire, hn]
      · simp [acquire, hn, List.lookup_cons, beq_false_of_ne hn]
    · by_cases hn : n = m
      · simp [acquire, hm, hn]
      · simp only [acquire, hm, if_false, List.lookup_cons, beq_false_of_ne hn]
        exact ih

theorem isShadowed_declare (s : ScopeStack) (name n : String) :
    (s.declare name).isShadowed n = (decide (n = name) || s.isShadowed n) := by
  cases hs : s.isShadowed name with
  | true =>
    rw [declare_of_shadowed hs]
    by_cases hn : n = name
    · simp [hn, hs]
    · simp [hn]
  | false =>
    rw [declare, hs]
    exact lookup_acquire name n s.owners

/-- Two tidy stacks with the same frames are the same stack. -/
theorem Tidy.ext {s t : ScopeStack} (hs : s.Tidy) (ht : t.Tidy) (hi : s.inner = t.inner)
    (hr : s.root = t.root) : s = t := by
  have hl : s.localNames = t.localNames := by simp [localNames, frames, hi, hr]
  have ho : s.owners = t.owners := by rw [hs.owners_eq, ht.owners_eq, hl]
  cases s
  cases t
  simp_all

end ScopeStack

namespace Survey

@[simp] theorem scopes_declare (s : Survey) (name : String) :
    (s.declare name).scopes = s.scopes.declare name := by
  unfold declare
  split
  · rename_i h
    rw [ScopeStack.declare_of_shadowed h]
  · rfl

@[simp] theorem scopes_refer (s : Survey) (name : String) (line : Option Int) :
    (s.refer name line).scopes = s.scopes := by
  unfold refer
  split
  · rfl
  · split
    · rfl
    · split <;> rfl

theorem pop?_eq_none {s : Survey} : s.pop? = none ↔ s.scopes.pop? = none := by
  simp [pop?]

theorem pop?_eq_some {s t : Survey} {frame : Frame} (h : s.pop? = some (frame, t)) :
    ∃ scopes, s.scopes.pop? = some (frame, scopes) ∧ t = { s with scopes } := by
  obtain ⟨⟨f, scopes⟩, hp, he⟩ := Option.map_eq_some_iff.mp h
  cases he
  exact ⟨scopes, hp, rfl⟩

end Survey

end CrateUsage
