import Mathlib.Data.List.Perm.Subperm
import CrateUsage.Proofs.Decorations
import CrateUsage.Proofs.Tree
import CrateUsage.Discovery

namespace CrateUsage

inductive Opening where
  | module (marked : Bool)
  | function (name : Option (Except Kind String)) (markers : Except Kind Markers)

def Opening.step : Opening → Outline → Step
  | module marked, body => .scope marked body
  | function name markers, body => .function name markers body

/-- A part of what a row of nodes says. An attribute is told by the position of its attribute item
in the row and by its own among the children of that item. -/
inductive RowPart where
  /-- What is said without a look at the attributes of the row. -/
  | plain (said : Outline)
  /-- An attribute, read in the scope that the row stands in. -/
  | visit (at_ : Nat × Nat)
  /-- The scope of the item at a position, which reads attributes first and then the rest. -/
  | item (position : Nat) (opening : Opening) (attributes : List (Nat × Nat)) (rest : Outline)

namespace RowPart

def outline (outlineOf : Nat × Nat → Outline) : RowPart → Outline
  | plain said => said
  | visit at_ => outlineOf at_
  | item _ opening attributes rest => [opening.step (attributes.flatMap outlineOf ++ rest)]

/-- The attributes that a part reads, each with the position of the item in whose scope it is read,
or none where that is the scope of the row. -/
def visits : RowPart → List ((Nat × Nat) × Option Nat)
  | plain _ => []
  | visit at_ => [(at_, none)]
  | item position _ attributes _ => attributes.map (·, some position)

end RowPart

/-- A run that comes to its end met no node without text. -/
theorem Step.not_mem_of_runAll {steps : List Step} {s : Survey}
    (h : (Step.runAll steps s).1 = none) (kind : Kind) : .unreadable kind ∉ steps := by
  induction steps generalizing s with
  | nil => exact List.not_mem_nil
  | cons step steps ih =>
    simp only [Step.runAll] at h
    split at h
    · rename_i t hr
      intro hm
      rcases List.mem_cons.mp hm with rfl | hm
      · cases hr
      · exact ih h hm
    · rename_i hstop
      exact (hstop _ (Prod.ext h rfl)).elim

namespace Outline

def placeAt (p : Place) (row : List Node) (k : Nat) : Place := (row.take k).foldl Place.behind p

/-- A row is read node by node, each at its place. -/
theorem ofChildren_every (p : Place) (row : List Node) :
    ofChildren .every p row = row.zipIdx.flatMap fun x =>
      if x.1.named then ofNode false (placeAt p row x.2) (row.drop (x.2 + 1)) x.1 else [] := by
  induction row generalizing p with
  | nil => rfl
  | cons n row ih =>
    rw [ofChildren_every_cons, ih, List.zipIdx_cons', List.flatMap_cons, List.flatMap_map]
    rfl

theorem placeAt_succ {p : Place} {row : List Node} {k : Nat} {n : Node} (hn : row[k]? = some n) :
    placeAt p row (k + 1) = (placeAt p row k).behind n := by
  rw [placeAt, List.take_add_one, hn, Option.toList_some, List.foldl_append]
  rfl

theorem placeAt_succ_of_none {p : Place} {row : List Node} {k : Nat} (hn : row[k]? = none) :
    placeAt p row (k + 1) = placeAt p row k := by
  rw [placeAt, take_succ_of_none hn, placeAt]

theorem above_placeAt (p : Place) (row : List Node) (k : Nat) :
    (placeAt p row k).above = p.above := by
  induction k with
  | zero => rfl
  | succ k ih =>
    cases hn : row[k]? with
    | none => rw [placeAt_succ_of_none hn, ih]
    | some n => rw [placeAt_succ hn, Place.above_behind, ih]

/-- Beside attribute items, modules and free functions, nodes look neither at the attributes before
them nor at the nodes after them. -/
theorem ofNode_eq_of_above {p q : Place} {after others : List Node} {n : Node}
    (ha : p.above = q.above) (hk : n.kind ≠ .attributeItem)
    (ho : n.ownsAttributes p.above = false) :
    ofNode false p after n = ofNode false q others n := by
  rw [ofNode_eq, ofNode_eq]
  unfold Node.ownsAttributes at ho
  simp only [Place.below, ← ha]
  generalize n.kind = kind at hk ho ⊢
  cases kind
  case attributeItem => exact absurd rfl hk
  case modItem => simp at ho
  case functionItem => simp_all
  all_goals rfl

end Outline

open Outline

namespace Node

def attributeOutline (above : List Kind) (row : List Node) (at_ : Nat × Nat) : Outline :=
  (attributeAt? row at_).elim [] (ofNode false { above := .attributeItem :: above } [])

def markersAt (row : List Node) (i : Nat) : Except Kind Markers :=
  Markers.ofAttributes (outerAttributes (row.take i).reverse)

def ownerAt? (above : List Kind) (row : List Node) (i : Nat) : Option Nat :=
  (decoratedAt? row i).filter fun j => row[j]?.any (·.ownsAttributes above)

def opening (n : Node) (markers : Except Kind Markers) : Except Kind Opening :=
  if n.kind = .modItem then (fun m => .module m.isCfgTest) <$> markers
  else .ok (.function ((n.child? "name").map read) markers)

def partsOfItem (above : List Kind) (i : Nat) (a : Node) : List RowPart :=
  a.children.zipIdx.flatMap fun x =>
    if x.1.isAttribute then [.visit (i, x.2)]
    else if x.1.named then
      [.plain (ofNode false (placeAt { above := a.kind :: above } a.children x.2)
        (a.children.drop (x.2 + 1)) x.1)]
    else []

def partsOfOwner (above : List Kind) (row : List Node) (i : Nat) (n : Node) : List RowPart :=
  match n.opening (markersAt row i) with
  | .error kind => [.plain [.unreadable kind]]
  | .ok opening =>
    [.plain (if n.kind = .modItem then declaring (n.child? "name") else []),
      .item i opening (outerPositions row i)
        (ofChildren .every { above := n.kind :: above } n.children)]

/-- Of the nodes of a row only attribute items, modules and free functions look at the attributes
there. -/
def partsAt (above : List Kind) (row : List Node) (i : Nat) (n : Node) : List RowPart :=
  if n.kind = .attributeItem then
    if (ownerAt? above row i).isSome then [] else partsOfItem above i n
  else if n.ownsAttributes above then partsOfOwner above row i n
  else [.plain (ofNode false { above } [] n)]

def parts (above : List Kind) (row : List Node) : List RowPart :=
  row.zipIdx.flatMap fun x => if x.1.named then partsAt above row x.2 x.1 else []

variable {above : List Kind} {row : List Node} {i j : Nat} {n : Node}

theorem kind_of_ownsAttributes (h : n.ownsAttributes above = true) :
    n.kind = .modItem ∨ n.kind = .functionItem := by
  simp only [ownsAttributes, Bool.or_eq_true, Bool.and_eq_true, decide_eq_true_eq] at h
  exact h.imp_right And.left

theorem not_attributeItem_of_ownsAttributes (h : n.ownsAttributes above = true) :
    n.kind ≠ .attributeItem := by
  rcases kind_of_ownsAttributes h with hk | hk <;> simp [hk]

theorem nodes_placeAt (above : List Kind) (row : List Node) (i : Nat) :
    (placeAt { above } row i).attributes.map Prod.fst = outerAttributes (row.take i).reverse := by
  induction i with
  | zero => rfl
  | succ i ih =>
    cases hn : row[i]? with
    | none => rw [placeAt_succ_of_none hn, take_succ_of_none hn, ih]
    | some n =>
      rw [placeAt_succ hn, reverse_take_succ hn]
      exact Place.nodes_behind n ih

theorem map_ofAttributes (above : List Kind) (ns : List Node) :
    (ofAttributes above ns).map Prod.snd =
      (ns.filter isAttribute).map (ofNode false { above := .attributeItem :: above } []) := by
  induction ns with
  | nil => rfl
  | cons n ns ih =>
    rw [ofAttributes_cons, List.map_append, ih, List.filter_cons, isAttribute]
    split
    · rename_i h
      have hk : n.kind = .attributeBody := by simpa using (Bool.and_eq_true_iff.mp h).2
      have hsay : ofNode false { above := .attributeItem :: above } [] n =
          ofChildren .first ⟨n.kind :: .attributeItem :: above, []⟩ n.children := by
        rw [ofNode_eq, hk]
        rfl
      simp only [List.map_cons, List.map_nil, hsay, List.singleton_append]
    · rfl

theorem outlines_ofAttributes (hn : row[i]? = some n) :
    (ofAttributes above n.children).map Prod.snd =
      n.attributesIn.map fun k => attributeOutline above row (i, k) := by
  have hf := congrArg (List.map fun a : Option Node =>
    a.elim [] (ofNode false { above := .attributeItem :: above } [])) (map_attributesIn n)
  rw [List.map_map, List.map_map] at hf
  rw [map_ofAttributes]
  simp only [attributeOutline, attributeAt?, hn, Option.bind_some]
  exact hf.symm

theorem outlines_placeAt (above : List Kind) (row : List Node) (i : Nat) :
    (placeAt { above } row i).attributes.map Prod.snd =
      (outerPositions row i).map (attributeOutline above row) := by
  induction i with
  | zero => simp [placeAt, outerPositions, decoratorsOf]
  | succ i ih =>
    cases hn : row[i]? with
    | none =>
      rw [placeAt_succ_of_none hn, ih, outerPositions, outerPositions,
        decoratorsOf_succ_of_none hn]
    | some n =>
      rw [placeAt_succ hn, outerPositions, decoratorsOf_succ hn]
      unfold Place.behind
      split
      · exact ih
      · split
        · simp only [List.map_append, ih, List.flatMap_append, above_placeAt, List.map_reverse,
            outlines_ofAttributes hn]
          simp [outerPositions, hn, Function.comp_def]
        · rfl

theorem isSome_ownerAt? (above : List Kind) (row : List Node) (i : Nat) :
    (ownerAt? above row i).isSome =
      (decorated? (row.drop (i + 1))).any (·.ownsAttributes above) := by
  rw [decorated?_drop, ownerAt?]
  cases decoratedAt? row i with
  | none => rfl
  | some j =>
    rw [Option.isSome_filter]
    rfl

theorem outline_partsOfItem (hn : row[i]? = some n) (hk : n.kind = .attributeItem) :
    (partsOfItem above i n).flatMap (RowPart.outline (attributeOutline above row)) =
      ofChildren .every { above := n.kind :: above } n.children := by
  rw [ofChildren_every, partsOfItem, List.flatMap_assoc]
  refine List.flatMap_congr fun ⟨c, k⟩ hc => ?_
  have hchild := List.mem_zipIdx_iff_getElem?.mp hc
  dsimp only at hchild ⊢
  by_cases ha : c.isAttribute = true
  · have hkind : c.kind = .attributeBody := by simpa using (Bool.and_eq_true_iff.mp ha).2
    rw [if_pos ha, if_pos (Bool.and_eq_true_iff.mp ha).1, List.flatMap_singleton]
    simp only [RowPart.outline, attributeOutline, attributeAt?, hn, Option.bind_some, hchild]
    exact (ofNode_eq_of_above (by rw [above_placeAt, hk]) (by simp [hkind])
      (by simp [ownsAttributes, hkind])).symm
  · rw [if_neg ha]
    split <;> simp [RowPart.outline]

theorem markers_placeAt (above : List Kind) (row : List Node) (i : Nat) :
    markers (placeAt { above } row i) = markersAt row i :=
  congrArg Markers.ofAttributes (nodes_placeAt above row i)

theorem attributesSay_placeAt (above : List Kind) (row : List Node) (i : Nat) :
    attributesSay (placeAt { above } row i) =
      (outerPositions row i).flatMap (attributeOutline above row) := by
  rw [attributesSay, List.flatMap_def, outlines_placeAt, ← List.flatMap_def]

theorem outline_partsOfOwner (after : List Node) (ho : n.ownsAttributes above = true) :
    (partsOfOwner above row i n).flatMap (RowPart.outline (attributeOutline above row)) =
      ofNode false (placeAt { above } row i) after n := by
  have habove : (placeAt { above } row i).above = above := above_placeAt _ row i
  rw [ofNode_eq, markers_placeAt, attributesSay_placeAt, Place.below, habove, partsOfOwner, opening]
  by_cases hk : n.kind = .modItem
  · simp only [hk, if_true]
    cases markersAt row i with
    | error kind => rfl
    | ok m => simp [Functor.map, Except.map, RowPart.outline, Opening.step]
  · obtain ⟨hfunction, hfree⟩ : n.kind = .functionItem ∧ isFree above = true := by
      simpa [ownsAttributes, hk] using ho
    simp [hfunction, hfree, RowPart.outline, Opening.step]

theorem outline_partsAt (hn : row[i]? = some n) :
    (partsAt above row i n).flatMap (RowPart.outline (attributeOutline above row)) =
      ofNode false (placeAt { above } row i) (row.drop (i + 1)) n := by
  have habove : (placeAt { above } row i).above = above := above_placeAt _ row i
  unfold partsAt
  split
  · rename_i hk
    rw [ofNode_eq, isSome_ownerAt?, hk, habove]
    split
    · rfl
    · rw [outline_partsOfItem hn hk, Place.below, habove, hk]
  · split
    · rename_i ho
      exact outline_partsOfOwner _ ho
    · rename_i hk ho
      rw [List.flatMap_singleton]
      exact ofNode_eq_of_above habove.symm hk (by rwa [Bool.not_eq_true] at ho)

/-- The parts of a row are what the row says, and nothing else is. -/
theorem outline_parts (above : List Kind) (row : List Node) :
    (parts above row).flatMap (RowPart.outline (attributeOutline above row)) =
      ofChildren .every { above } row := by
  rw [ofChildren_every, parts, List.flatMap_assoc]
  refine List.flatMap_congr fun ⟨n, i⟩ hn => ?_
  split
  · exact outline_partsAt (List.mem_zipIdx_iff_getElem?.mp hn)
  · rfl

def attributePositions (row : List Node) : List (Nat × Nat) :=
  row.zipIdx.flatMap fun x =>
    if x.1.isAttributeItem then x.1.attributesIn.map (x.2, ·) else []

theorem mem_attributePositions {at_ : Nat × Nat} :
    at_ ∈ attributePositions row ↔
      ∃ a, row[at_.1]? = some a ∧ a.isAttributeItem = true ∧ at_.2 ∈ a.attributesIn := by
  obtain ⟨i, k⟩ := at_
  simp only [attributePositions, List.mem_flatMap, Prod.exists, List.mem_zipIdx_iff_getElem?,
    List.mem_ite_nil_right, List.mem_map, Prod.mk.injEq]
  constructor
  · rintro ⟨a, i', ha, hitem, k', hk, rfl, rfl⟩
    exact ⟨a, ha, hitem, hk⟩
  · rintro ⟨a, ha, hitem, hk⟩
    exact ⟨a, i, ha, hitem, k, hk, rfl, rfl⟩

theorem nodup_attributePositions (row : List Node) : (attributePositions row).Nodup := by
  refine nodup_flatMap_of_key Prod.snd Prod.fst ?_ ?_ ?_
  · rw [List.zipIdx_map_snd]
    exact List.nodup_range'
  · intro x hx
    split
    · exact x.1.nodup_attributesIn.map fun a b h => (Prod.mk.inj h).2
    · exact .nil
  · intro x hx at_ hat
    split at hat
    · obtain ⟨k, -, rfl⟩ := List.mem_map.mp hat
      rfl
    · cases hat

theorem visits_partsOfItem (above : List Kind) (i : Nat) (a : Node) :
    (partsOfItem above i a).flatMap RowPart.visits =
      a.attributesIn.map fun k => ((i, k), none) := by
  rw [partsOfItem, List.flatMap_assoc, attributesIn, List.map_map]
  generalize a.children.zipIdx = children
  induction children with
  | nil => rfl
  | cons x children ih =>
    rw [List.flatMap_cons, ih, List.filter_cons]
    split
    · rfl
    · split <;> rfl

theorem visits_partsOfOwner (above : List Kind) (row : List Node) (i : Nat) (n : Node) :
    (partsOfOwner above row i n).flatMap RowPart.visits =
      if (n.opening (markersAt row i)).isOk then (outerPositions row i).map (·, some i)
      else [] := by
  rw [partsOfOwner]
  cases n.opening (markersAt row i) with
  | error kind => rfl
  | ok opening => simp [RowPart.visits, Except.isOk, Except.toBool]

/-- What is visited on account of the node at a position of a row. -/
theorem mem_visits_partsAt {v : (Nat × Nat) × Option Nat} :
    v ∈ (partsAt above row i n).flatMap RowPart.visits ↔
      (n.kind = .attributeItem ∧ ownerAt? above row i = none ∧
        v.2 = none ∧ v.1.1 = i ∧ v.1.2 ∈ n.attributesIn) ∨
      (n.ownsAttributes above = true ∧ (n.opening (markersAt row i)).isOk = true ∧
        v.2 = some i ∧ v.1 ∈ outerPositions row i) := by
  obtain ⟨⟨i', k⟩, owner⟩ := v
  have hother : n.ownsAttributes above = true → n.kind ≠ .attributeItem :=
    not_attributeItem_of_ownsAttributes
  unfold partsAt
  split
  · rename_i hk
    cases ho : ownerAt? above row i with
    | none => grind [visits_partsOfItem]
    | some j => grind
  · split
    · rw [visits_partsOfOwner]
      grind
    · simp_all [RowPart.visits]

theorem mem_visits_parts {v : (Nat × Nat) × Option Nat} :
    v ∈ (parts above row).flatMap RowPart.visits ↔
      ∃ i n, row[i]? = some n ∧ n.named = true ∧
        v ∈ (partsAt above row i n).flatMap RowPart.visits := by
  rw [parts, List.flatMap_assoc, List.mem_flatMap]
  constructor
  · rintro ⟨⟨n, i⟩, hn, hv⟩
    dsimp only at hv
    split at hv
    · exact ⟨i, n, List.mem_zipIdx_iff_getElem?.mp hn, by assumption, hv⟩
    · cases hv
  · rintro ⟨i, n, hn, hnamed, hv⟩
    exact ⟨(n, i), List.mem_zipIdx_iff_getElem?.mpr hn, by rwa [if_pos hnamed]⟩

theorem nodup_visits_partsAt (above : List Kind) (row : List Node) (i : Nat) (n : Node) :
    ((partsAt above row i n).flatMap RowPart.visits).Nodup := by
  unfold partsAt
  split
  · split
    · exact .nil
    · rw [visits_partsOfItem]
      exact n.nodup_attributesIn.map fun a b h => (Prod.mk.inj (Prod.mk.inj h).1).2
  · split
    · rw [visits_partsOfOwner]
      split
      · exact (nodup_outerPositions row i).map fun a b h => (Prod.mk.inj h).1
      · exact .nil
    · exact .nil

theorem nodup_visits (above : List Kind) (row : List Node) :
    ((parts above row).flatMap RowPart.visits).Nodup := by
  rw [parts, List.flatMap_assoc]
  -- What is visited tells on account of which node it is: the owner, or else the attribute item.
  refine nodup_flatMap_of_key Prod.snd (fun v => v.2.getD v.1.1) ?_ ?_ ?_
  · rw [List.zipIdx_map_snd]
    exact List.nodup_range'
  · rintro ⟨n, i⟩ -
    dsimp only
    split
    · exact nodup_visits_partsAt above row i n
    · exact .nil
  · rintro ⟨n, i⟩ - v hv
    dsimp only at hv ⊢
    split at hv
    · rcases mem_visits_partsAt.mp hv with ⟨-, -, howner, hi, -⟩ | ⟨-, -, howner, -⟩
      · rw [howner, ← hi]
        rfl
      · rw [howner]
        rfl
    · cases hv

theorem isDecorable_of_ownsAttributes (hn : n.named = true) (ho : n.ownsAttributes above = true) :
    n.isDecorable = true := by
  rcases kind_of_ownsAttributes ho with hk | hk <;>
    simp [isDecorable, isDecoration, hn, hk, Kind.isComment]

/-- An attribute item leaves its attributes to the item that finds them before it. -/
theorem ownerAt?_eq_some_iff {a : Node} (ha : row[i]? = some a) (hitem : a.isAttributeItem = true) :
    ownerAt? above row i = some j ↔
      i ∈ decoratorsOf row j ∧
        ∃ n, row[j]? = some n ∧ n.named = true ∧ n.ownsAttributes above = true := by
  rw [ownerAt?, Option.filter_eq_some_iff]
  constructor
  · rintro ⟨hd, ho⟩
    obtain ⟨n, hn, ho⟩ := (Option.any_eq_true _ _).mp ho
    obtain ⟨-, ⟨m, hm, hdecorable⟩, -⟩ := decoratedAt?_eq_some_iff.mp hd
    cases hn.symm.trans hm
    exact ⟨(decoratedAt?_iff_mem_decoratorsOf ha hitem hn hdecorable).mp hd, n, hn,
      (Bool.and_eq_true_iff.mp hdecorable).1, ho⟩
  · rintro ⟨hi, n, hn, hnamed, ho⟩
    have hdecorable := isDecorable_of_ownsAttributes hnamed ho
    refine ⟨(decoratedAt?_iff_mem_decoratorsOf ha hitem hn hdecorable).mpr hi, ?_⟩
    simpa [hn] using ho

/-- What is visited are the attributes of the row, each in the scope of its owner if there is one
whose scope is opened at all. -/
theorem mem_visits {v : (Nat × Nat) × Option Nat} :
    v ∈ (parts above row).flatMap RowPart.visits ↔
      v.1 ∈ attributePositions row ∧ v.2 = ownerAt? above row v.1.1 ∧
        ∀ j n, v.2 = some j → row[j]? = some n → (n.opening (markersAt row j)).isOk = true := by
  obtain ⟨⟨i, k⟩, owner⟩ := v
  rw [mem_visits_parts, mem_attributePositions]
  constructor
  · rintro ⟨i', n, hn, hnamed, hv⟩
    rcases mem_visits_partsAt.mp hv with ⟨hk, hnone, rfl, rfl, hin⟩ | ⟨ho, hok, rfl, hat⟩
    · refine ⟨⟨n, hn, ?_, hin⟩, hnone.symm, ?_⟩
      · simp [isAttributeItem, hnamed, hk]
      · rintro j m hj -
        cases hj
    · obtain ⟨hi, a, ha, hin⟩ := mem_outerPositions.mp hat
      obtain ⟨-, ⟨b, hb, hitem⟩, -⟩ := mem_decoratorsOf.mp hi
      cases ha.symm.trans hb
      refine ⟨⟨a, ha, hitem, hin⟩, ?_, ?_⟩
      · exact ((ownerAt?_eq_some_iff ha hitem).mpr ⟨hi, n, hn, hnamed, ho⟩).symm
      · rintro j m hj hm
        cases hj
        cases hn.symm.trans hm
        exact hok
  · rintro ⟨⟨a, ha, hitem, hin⟩, howner, hok⟩
    dsimp only at howner hok ha hin
    cases ho : ownerAt? above row i with
    | none =>
      obtain ⟨hnamed, hk⟩ := Bool.and_eq_true_iff.mp hitem
      refine ⟨i, a, ha, hnamed, mem_visits_partsAt.mpr (.inl ?_)⟩
      exact ⟨by simpa using hk, ho, howner.trans ho, rfl, hin⟩
    | some j =>
      obtain ⟨hi, n, hn, hnamed, howns⟩ := (ownerAt?_eq_some_iff ha hitem).mp ho
      refine ⟨j, n, hn, hnamed, mem_visits_partsAt.mpr (.inr ?_)⟩
      exact ⟨howns, hok j n (howner.trans ho) hn, howner.trans ho,
        mem_outerPositions.mpr ⟨hi, a, ha, hin⟩⟩

/-- A run that comes to its end opened the scope of every owner. -/
theorem opening_of_run {s : Survey}
    (hs : (Step.runAll (ofChildren .every { above } row) s).1 = none) (hn : row[j]? = some n)
    (hnamed : n.named = true) (ho : n.ownsAttributes above = true) :
    (n.opening (markersAt row j)).isOk = true := by
  cases hopening : n.opening (markersAt row j) with
  | ok opening => rfl
  | error kind =>
    have hk := not_attributeItem_of_ownsAttributes ho
    have hpart : RowPart.plain [.unreadable kind] ∈ parts above row := by
      refine List.mem_flatMap.mpr ⟨(n, j), List.mem_zipIdx_iff_getElem?.mpr hn, ?_⟩
      rw [if_pos hnamed, partsAt, if_neg hk, if_pos ho, partsOfOwner, hopening]
      exact List.mem_singleton.mpr rfl
    rw [← outline_parts] at hs
    refine absurd (List.mem_flatMap.mpr ⟨_, hpart, ?_⟩) (Step.not_mem_of_runAll hs kind)
    exact List.mem_singleton.mpr rfl

theorem subperm_visits (above : List Kind) (row : List Node) :
    ((parts above row).flatMap RowPart.visits).Subperm
      ((attributePositions row).map fun at_ => (at_, ownerAt? above row at_.1)) := by
  refine List.subperm_of_subset (nodup_visits above row) fun v hv => ?_
  obtain ⟨hat, howner, -⟩ := mem_visits.mp hv
  exact List.mem_map.mpr ⟨v.1, hat, Prod.ext rfl howner.symm⟩

theorem perm_visits {s : Survey}
    (hs : (Step.runAll (ofChildren .every { above } row) s).1 = none) :
    ((parts above row).flatMap RowPart.visits).Perm
      ((attributePositions row).map fun at_ => (at_, ownerAt? above row at_.1)) := by
  have hnodup :
      ((attributePositions row).map fun at_ => (at_, ownerAt? above row at_.1)).Nodup :=
    (nodup_attributePositions row).map fun a b h => (Prod.mk.inj h).1
  refine (subperm_visits above row).antisymm (List.subperm_of_subset hnodup fun v hv => ?_)
  obtain ⟨at_, hat, rfl⟩ := List.mem_map.mp hv
  refine mem_visits.mpr ⟨hat, rfl, fun j n howner hn => ?_⟩
  obtain ⟨a, ha, hitem, -⟩ := mem_attributePositions.mp hat
  obtain ⟨-, m, hm, hnamed, ho⟩ := (ownerAt?_eq_some_iff ha hitem).mp howner
  cases hn.symm.trans hm
  exact opening_of_run hs hn hnamed ho

/-- Attributes are neither lost nor read twice. The scan forward from an attribute item and the scan
back from an item agree on what belongs together, and each attribute of a row is read once: within
the scope of the module or free function that it belongs to, or else in the scope of the row. -/
theorem attributes_read_once (above : List Kind) (row : List Node) :
    (∀ i j a n, row[i]? = some a → a.isAttributeItem = true → row[j]? = some n →
      n.isDecorable = true → (decoratedAt? row i = some j ↔ i ∈ decoratorsOf row j)) ∧
    (∀ i, decorated? (row.drop (i + 1)) = (decoratedAt? row i).bind (row[·]?)) ∧
    (∀ j, (outerAttributes (row.take j).reverse).map some =
      (outerPositions row j).map (attributeAt? row)) ∧
    (∀ j, (∀ i ∈ decoratorsOf row j, ∀ a, row[i]? = some a → a.attributesIn.length ≤ 1) →
      (outerPositions row j).Pairwise (·.1 < ·.1)) ∧
    ofChildren .every { above } row =
      (parts above row).flatMap (RowPart.outline (attributeOutline above row)) ∧
    (attributePositions row).Nodup ∧
    ((parts above row).flatMap RowPart.visits).Subperm
      ((attributePositions row).map fun at_ => (at_, ownerAt? above row at_.1)) ∧
    (∀ s, (Step.runAll (ofChildren .every { above } row) s).1 = none →
      ((parts above row).flatMap RowPart.visits).Perm
        ((attributePositions row).map fun at_ => (at_, ownerAt? above row at_.1))) := by
  refine ⟨?_, decorated?_drop row, outerAttributes_take row, ?_, (outline_parts above row).symm,
    nodup_attributePositions row, subperm_visits above row, ?_⟩
  · intro i j a n ha hitem hn hd
    exact decoratedAt?_iff_mem_decoratorsOf ha hitem hn hd
  · intro j hone
    exact pairwise_outerPositions hone
  · intro s hs
    exact perm_visits hs

/-- The attribute of a module is read within it, that of a structure beside it, and one that stands
at the end of the row as well. -/
theorem attributes_read_of_tests :
    let held (path : Node) := worded .attributeItem none "" [worded .attributeBody none "" [path]]
    let row := testModule [] ++
      [held (twoSegments none "serde" "skip"), worded .lineComment none "// text" [],
        worded (.other "struct_item") none "" [], held (twoSegments none "rustfmt" "skip")]
    0 ∈ decoratorsOf row 1 ∧ (outerPositions row 4).Pairwise (·.1 < ·.1) ∧
      ((parts [.sourceFile] row).flatMap RowPart.visits).Perm
        [((0, 0), some 1), ((2, 0), none), ((5, 0), none)] := by
  intro held row
  obtain ⟨hagree, -, -, horder, -, -, -, hperm⟩ := attributes_read_once [.sourceFile] row
  refine ⟨(hagree 0 1 _ _ rfl rfl rfl rfl).mp rfl, horder 4 ?_, hperm {} rfl⟩
  intro i hi a ha
  have hdecorators : decoratorsOf row 4 = [2] := by decide
  rw [hdecorators, List.mem_singleton] at hi
  subst hi
  cases ha
  decide

end Node

end CrateUsage
