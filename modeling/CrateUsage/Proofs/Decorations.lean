import Mathlib.Data.List.Nodup
import CrateUsage.Proofs.Rows

namespace CrateUsage

/-- Nothing is listed twice where each entry tells by its key which part of the list it is from. -/
theorem nodup_flatMap_of_key {α β γ : Type} {as : List α} {f : α → List β} (part : α → γ)
    (key : β → γ) (hp : (as.map part).Nodup) (hf : ∀ a ∈ as, (f a).Nodup)
    (hk : ∀ a ∈ as, ∀ b ∈ f a, key b = part a) : (as.flatMap f).Nodup := by
  refine List.nodup_flatMap.mpr ⟨hf, ?_⟩
  refine (List.pairwise_map.mp hp).imp_of_mem ?_
  intro a a' ha ha' hne b hb hb'
  exact hne ((hk a ha b hb).symm.trans (hk a' ha' b hb'))

section Prefixes

variable {α : Type} {as : List α} {a : α} {i : Nat}

theorem reverse_take_succ (h : as[i]? = some a) :
    (as.take (i + 1)).reverse = a :: (as.take i).reverse := by
  rw [List.take_add_one, h, Option.toList_some, List.reverse_append]
  rfl

theorem take_succ_of_none (h : as[i]? = none) : as.take (i + 1) = as.take i := by
  rw [List.take_add_one, h, Option.toList_none, List.append_nil]

end Prefixes

namespace Node

def isAttributeItem (n : Node) : Bool := n.named && n.kind = .attributeItem

def isAttribute (n : Node) : Bool := n.named && n.kind = .attributeBody

def isDecorable (n : Node) : Bool := n.named && !n.isDecoration

variable {row : List Node} {i j k : Nat} {n : Node}

/-- The position of the node that an attribute item at a position of a row decorates: the scan is
that of `decorated?`, on nodes that carry their positions. -/
def decoratedAt? (row : List Node) (i : Nat) : Option Nat :=
  (((row.zipIdx.drop (i + 1)).filter (·.1.named)).find? (!·.1.isDecoration)).map Prod.snd

/-- The positions of the attribute items whose attributes are those of the node at a position of a
row: the scan is that of `outerAttributes`, on nodes that carry their positions. -/
def decoratorsOf (row : List Node) (j : Nat) : List Nat :=
  ((((row.zipIdx.take j).reverse.filter (·.1.named)).takeWhile (·.1.isDecoration)).reverse.filter
    (·.1.kind = .attributeItem)).map Prod.snd

/-- Nothing but decorations and tokens stands between two positions. -/
def Adjoins (row : List Node) (i j : Nat) : Prop :=
  ∀ k n, i < k → k < j → row[k]? = some n → n.named = true → n.isDecoration = true

/-- The node at the position that the scan tells is the node that the scan of nodes tells. -/
theorem decorated?_drop (row : List Node) (i : Nat) :
    decorated? (row.drop (i + 1)) = (decoratedAt? row i).bind (row[·]?) := by
  have hrow : (row.zipIdx.drop (i + 1)).map Prod.fst = row.drop (i + 1) := by
    rw [List.map_drop, List.zipIdx_map_fst]
  rw [← hrow, decorated?, List.filter_map, List.find?_map, decoratedAt?]
  cases hd : ((row.zipIdx.drop (i + 1)).filter (·.1.named)).find? (!·.1.isDecoration) with
  | none => exact Option.map_eq_none_iff.mpr hd
  | some found =>
    have hm := (List.mem_filter.mp (List.mem_of_find?_eq_some hd)).1
    have hat := List.mem_zipIdx_iff_getElem?.mp (List.mem_of_mem_drop hm)
    exact (Option.map_eq_some_iff.mpr ⟨found, hd, rfl⟩).trans hat.symm

theorem getElem?_drop_zipIdx {t : Nat} {found : Node × Nat} :
    (row.zipIdx.drop (i + 1))[t]? = some found ↔
      row[i + 1 + t]? = some found.1 ∧ found.2 = i + 1 + t := by
  obtain ⟨n, k⟩ := found
  rw [List.getElem?_drop, List.getElem?_zipIdx, Nat.zero_add, Option.map_eq_some_iff]
  constructor
  · rintro ⟨m, hm, he⟩
    cases he
    exact ⟨hm, rfl⟩
  · rintro ⟨hm, hk⟩
    exact ⟨n, hm, by rw [← hk]⟩

theorem decoratedAt?_eq_some_iff :
    decoratedAt? row i = some j ↔
      i < j ∧ (∃ n, row[j]? = some n ∧ n.isDecorable = true) ∧ Adjoins row i j := by
  have hscan : decoratedAt? row i =
      ((row.zipIdx.drop (i + 1)).find? (·.1.isDecorable)).map Prod.snd := by
    rw [decoratedAt?, List.find?_filter]
    simp only [isDecorable, Bool.decide_and, Bool.decide_eq_true]
  rw [hscan, Option.map_eq_some_iff]
  constructor
  · rintro ⟨⟨n, k⟩, hf, rfl⟩
    obtain ⟨hp, t, ht, he, hbefore⟩ := List.find?_eq_some_iff_getElem.mp hf
    obtain ⟨hn, rfl⟩ := getElem?_drop_zipIdx.mp (List.getElem?_eq_some_iff.mpr ⟨ht, he⟩)
    refine ⟨by dsimp only; omega, ⟨n, hn, hp⟩, ?_⟩
    intro q m hiq hqk hm hnamed
    obtain ⟨d, rfl⟩ : ∃ d, q = i + 1 + d := ⟨q - (i + 1), by omega⟩
    have hq : (row.zipIdx.drop (i + 1))[d]? = some (m, i + 1 + d) :=
      getElem?_drop_zipIdx.mpr ⟨hm, rfl⟩
    obtain ⟨hlt, hq⟩ := List.getElem?_eq_some_iff.mp hq
    have hnot := hbefore d (Nat.lt_of_add_lt_add_left hqk)
    rw [hq] at hnot
    simpa [isDecorable, hnamed] using hnot
  · rintro ⟨hij, ⟨n, hn, hd⟩, hadjoins⟩
    obtain ⟨t, rfl⟩ : ∃ t, j = i + 1 + t := ⟨j - (i + 1), by omega⟩
    have ht : (row.zipIdx.drop (i + 1))[t]? = some (n, i + 1 + t) :=
      getElem?_drop_zipIdx.mpr ⟨hn, rfl⟩
    obtain ⟨hlt, ht⟩ := List.getElem?_eq_some_iff.mp ht
    refine ⟨(n, i + 1 + t), List.find?_eq_some_iff_getElem.mpr ⟨hd, t, hlt, ht, ?_⟩, rfl⟩
    intro d hdt
    have hq := List.getElem?_eq_getElem (l := row.zipIdx.drop (i + 1)) (i := d) (by omega)
    have hm := (getElem?_drop_zipIdx.mp hq).1
    have hdecoration := hadjoins (i + 1 + d) _ (by omega) (by omega) hm
    simp only [isDecorable, Bool.not_and, Bool.not_not, Bool.or_eq_true, Bool.not_eq_true']
    cases hnamed : Node.named _ with
    | false => exact .inl rfl
    | true => exact .inr (hdecoration hnamed)

/-- A node joins the decorations before it, or it is passed over, or none are left. -/
theorem decoratorsOf_succ (hn : row[j]? = some n) :
    decoratorsOf row (j + 1) =
      if !n.named || n.kind.isComment then decoratorsOf row j
      else if n.kind = .attributeItem then decoratorsOf row j ++ [j]
      else [] := by
  have hat : row.zipIdx[j]? = some (n, j) := by
    rw [List.getElem?_zipIdx, hn, Nat.zero_add, Option.map_some]
  rw [decoratorsOf, reverse_take_succ hat, List.filter_cons]
  cases hnamed : n.named with
  | false => rfl
  | true =>
    simp only [if_true, Bool.not_true, Bool.false_or, List.takeWhile_cons]
    by_cases hk : n.kind = .attributeItem
    · simp [isDecoration, hk, Kind.isComment, decoratorsOf]
    · cases hc : n.kind.isComment <;> simp [isDecoration, hk, hc, decoratorsOf]

theorem decoratorsOf_succ_of_none (hn : row[j]? = none) :
    decoratorsOf row (j + 1) = decoratorsOf row j := by
  have hat : row.zipIdx[j]? = none := by rw [List.getElem?_zipIdx, hn, Option.map_none]
  rw [decoratorsOf, take_succ_of_none hat, decoratorsOf]

theorem adjoins_succ :
    Adjoins row i (j + 1) ↔
      Adjoins row i j ∧
        (i < j → ∀ n, row[j]? = some n → n.named = true → n.isDecoration = true) := by
  constructor
  · intro h
    exact ⟨fun k n hi hk => h k n hi (by omega), fun hi n => h j n hi (by omega)⟩
  · rintro ⟨h, hj⟩ k n hi hk hn
    rcases Nat.lt_succ_iff_lt_or_eq.mp hk with hk | rfl
    · exact h k n hi hk hn
    · exact hj hi n hn

/-- By induction on the position: the node before it is looked at first. -/
theorem mem_decoratorsOf :
    i ∈ decoratorsOf row j ↔
      i < j ∧ (∃ a, row[i]? = some a ∧ a.isAttributeItem = true) ∧ Adjoins row i j := by
  induction j with
  | zero => simp [decoratorsOf]
  | succ j ih =>
    rw [adjoins_succ]
    cases hn : row[j]? with
    | none =>
      rw [decoratorsOf_succ_of_none hn, ih]
      grind
    | some n =>
      rw [decoratorsOf_succ hn]
      split
      · -- A token or a comment parts nothing and is no attribute item itself.
        rw [ih]
        grind [isDecoration, isAttributeItem, Kind.isComment]
      · split
        · -- An attribute item is the nearest, and those before it stay.
          rw [List.mem_append, ih]
          grind [isDecoration, isAttributeItem, Kind.isComment, Adjoins]
        · -- Any other node parts all that stands before it from what follows.
          grind [isDecoration, isAttributeItem, Kind.isComment]

/-- The two scans agree: an attribute item decorates a node when it is among those whose attributes
are the node's. -/
theorem decoratedAt?_iff_mem_decoratorsOf {a : Node} (ha : row[i]? = some a)
    (hitem : a.isAttributeItem = true) (hn : row[j]? = some n) (hd : n.isDecorable = true) :
    decoratedAt? row i = some j ↔ i ∈ decoratorsOf row j := by
  rw [decoratedAt?_eq_some_iff, mem_decoratorsOf]
  constructor
  · rintro ⟨hij, -, hadjoins⟩
    exact ⟨hij, ⟨a, ha, hitem⟩, hadjoins⟩
  · rintro ⟨hij, -, hadjoins⟩
    exact ⟨hij, ⟨n, hn, hd⟩, hadjoins⟩

theorem pairwise_decoratorsOf (row : List Node) (j : Nat) :
    (decoratorsOf row j).Pairwise (· < ·) := by
  induction j with
  | zero => simp [decoratorsOf]
  | succ j ih =>
    cases hn : row[j]? with
    | none => rwa [decoratorsOf_succ_of_none hn]
    | some n =>
      rw [decoratorsOf_succ hn]
      split
      · exact ih
      · split
        · refine List.pairwise_append.mpr ⟨ih, List.pairwise_singleton _ _, ?_⟩
          intro i hi k hk
          rw [List.mem_singleton.mp hk]
          exact (mem_decoratorsOf.mp hi).1
        · exact .nil

def attributesIn (n : Node) : List Nat := (n.children.zipIdx.filter (·.1.isAttribute)).map Prod.snd

def outerPositions (row : List Node) (j : Nat) : List (Nat × Nat) :=
  (decoratorsOf row j).flatMap fun i => (row[i]?.elim [] attributesIn).reverse.map (i, ·)

def attributeAt? (row : List Node) (at_ : Nat × Nat) : Option Node :=
  row[at_.1]?.bind (·.children[at_.2]?)

theorem pairwise_attributesIn (n : Node) : n.attributesIn.Pairwise (· < ·) := by
  have hs : n.attributesIn.Sublist (List.range' 0 n.children.length) := by
    rw [← List.zipIdx_map_snd]
    exact List.filter_sublist.map _
  exact (List.pairwise_lt_range' 1).sublist hs

theorem mem_outerPositions {at_ : Nat × Nat} :
    at_ ∈ outerPositions row j ↔
      at_.1 ∈ decoratorsOf row j ∧ ∃ n, row[at_.1]? = some n ∧ at_.2 ∈ n.attributesIn := by
  obtain ⟨i, k⟩ := at_
  simp only [outerPositions, List.mem_flatMap, List.mem_map, List.mem_reverse, Prod.mk.injEq]
  constructor
  · rintro ⟨i', hi, k', hk, rfl, rfl⟩
    cases hn : row[i']? with
    | none => simp [hn] at hk
    | some n =>
      rw [hn] at hk
      exact ⟨hi, n, rfl, hk⟩
  · rintro ⟨hi, n, hn, hk⟩
    exact ⟨i, hi, k, by rwa [hn], rfl, rfl⟩

theorem nodup_attributesIn (n : Node) : n.attributesIn.Nodup :=
  (pairwise_attributesIn n).imp fun h => Nat.ne_of_lt h

theorem nodup_outerPositions (row : List Node) (j : Nat) : (outerPositions row j).Nodup := by
  refine nodup_flatMap_of_key id Prod.fst ?_ ?_ ?_
  · rw [List.map_id]
    exact (pairwise_decoratorsOf row j).imp fun h => Nat.ne_of_lt h
  · intro i hi
    cases row[i]? with
    | none => exact .nil
    | some n =>
      exact (List.nodup_reverse.mpr n.nodup_attributesIn).map fun a b h => (Prod.mk.inj h).2
  · intro i hi at_ hat
    obtain ⟨k, -, rfl⟩ := List.mem_map.mp hat
    rfl

/-- Where no attribute item holds several attributes, they stand in the order of the row. -/
theorem pairwise_outerPositions
    (h : ∀ i ∈ decoratorsOf row j, ∀ a, row[i]? = some a → a.attributesIn.length ≤ 1) :
    (outerPositions row j).Pairwise (·.1 < ·.1) := by
  refine List.pairwise_flatMap.mpr ⟨?_, ?_⟩
  · intro i hi
    cases ha : row[i]? with
    | none => exact .nil
    | some a =>
      simp only [Option.elim_some]
      rcases hp : a.attributesIn with _ | ⟨k, _ | ⟨k', ks⟩⟩
      · exact .nil
      · exact List.pairwise_singleton _ _
      · have hl := h i hi a ha
        simp [hp] at hl
  · refine (pairwise_decoratorsOf row j).imp fun {i i'} hlt => ?_
    intro x hx y hy
    obtain ⟨k, -, rfl⟩ := List.mem_map.mp hx
    obtain ⟨k', -, rfl⟩ := List.mem_map.mp hy
    exact hlt

/-- The nodes at those positions are the attributes, in their order. -/
theorem map_attributesIn (n : Node) :
    n.attributesIn.map (n.children[·]?) = (n.children.filter isAttribute).map some := by
  have hnode : ∀ found ∈ n.children.zipIdx.filter (·.1.isAttribute),
      n.children[found.2]? = some found.1 := fun found hf =>
    List.mem_zipIdx_iff_getElem?.mp (List.mem_filter.mp hf).1
  conv_rhs => rw [← List.zipIdx_map_fst 0 n.children, List.filter_map, List.map_map]
  rw [attributesIn, List.map_map]
  exact List.map_congr_left hnode

theorem map_attributesHeld (hk : n.kind = .attributeItem) :
    n.attributesHeld.map some = n.attributesIn.reverse.map (n.children[·]?) := by
  have hheld : n.namedChildren.filter (·.kind = .attributeBody) =
      n.children.filter isAttribute := by
    rw [namedChildren, List.filter_filter]
    exact List.filter_congr fun _ _ => Bool.and_comm _ _
  rw [attributesHeld, if_pos hk, hheld, List.map_reverse, List.map_reverse, map_attributesIn]

/-- The attributes at those positions are the attributes that the scan of nodes tells. -/
theorem outerAttributes_take (row : List Node) (j : Nat) :
    (outerAttributes (row.take j).reverse).map some =
      (outerPositions row j).map (attributeAt? row) := by
  induction j with
  | zero => simp [outerPositions, decoratorsOf, outerAttributes]
  | succ j ih =>
    cases hn : row[j]? with
    | none => rwa [take_succ_of_none hn, outerPositions, decoratorsOf_succ_of_none hn]
    | some n =>
      rw [reverse_take_succ hn, Outline.outerAttributes_cons, outerPositions, decoratorsOf_succ hn]
      split
      · exact ih
      · split
        · rename_i hk
          simp only [List.map_append, List.flatMap_append, ih, map_attributesHeld hk]
          simp [outerPositions, hn, attributeAt?]
        · rfl

end Node

end CrateUsage
