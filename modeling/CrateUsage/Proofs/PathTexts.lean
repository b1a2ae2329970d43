import CrateUsage.FilePath
import Mathlib.Data.List.Basic

namespace CrateUsage.FilePath

structure IsName (name : String) : Prop where
  nonempty : name ≠ ""
  notDot : name ≠ "."
  whole : '/' ∉ name.toList

/-- A path that no shorter text leads to. -/
structure IsNormal (p : FilePath) : Prop where
  slashes : p.slashes ≤ 2
  names : ∀ name ∈ p.names, IsName name

theorem not_mem_of_mem_splitOn {c : Char} (cs : List Char) {part : List Char}
    (h : part ∈ cs.splitOn c) : c ∉ part := by
  induction cs generalizing part with
  | nil =>
    rw [List.splitOn_nil, List.mem_singleton] at h
    rw [h]
    exact List.not_mem_nil
  | cons d cs ih =>
    rw [List.splitOn_cons_eq_if_modifyHead] at h
    split at h
    · rcases List.mem_cons.mp h with rfl | h
      · exact List.not_mem_nil
      · exact ih h
    · rename_i hd
      cases hs : cs.splitOn c with
      | nil => exact absurd hs (List.splitOn_ne_nil c cs)
      | cons first rest =>
        rw [hs] at h ih
        rcases List.mem_cons.mp h with rfl | h
        · intro hmem
          rcases List.mem_cons.mp hmem with rfl | hmem
          · exact hd (beq_self_eq_true c)
          · exact ih List.mem_cons_self hmem
        · exact ih (List.mem_cons_of_mem _ h)

theorem isNormal_ofString (s : String) : (ofString s).IsNormal where
  slashes := by
    change leadingSlashes s.toList ≤ 2
    unfold leadingSlashes
    split <;> omega
  names := by
    intro name hname
    obtain ⟨hsplit, hkept⟩ := List.mem_filter.mp hname
    obtain ⟨part, hpart, rfl⟩ := List.mem_map.mp hsplit
    rw [Bool.and_eq_true, decide_eq_true_eq, decide_eq_true_eq] at hkept
    exact ⟨hkept.1, hkept.2, by
      rw [String.toList_ofList]
      exact not_mem_of_mem_splitOn s.toList hpart⟩

theorem splitOn_replicate (n : Nat) (cs : List Char) :
    (List.replicate n '/' ++ cs).splitOn '/' = List.replicate n [] ++ cs.splitOn '/' := by
  induction n with
  | zero => rfl
  | succ n ih =>
    rw [List.replicate_succ, List.replicate_succ, List.cons_append, List.cons_append,
      List.splitOn_cons_eq_if_modifyHead, if_pos (beq_self_eq_true '/'), ih]

theorem leadingSlashes_replicate {n : Nat} (hn : n ≤ 2) {cs : List Char}
    (h : cs.head? ≠ some '/') : leadingSlashes (List.replicate n '/' ++ cs) = n := by
  have hnone : cs.takeWhile (· = '/') = [] := by
    cases cs with
    | nil => rfl
    | cons c cs =>
      have hc : c ≠ '/' := fun hc => h (congrArg some hc)
      simp [hc]
  have hrun : (List.replicate n '/' ++ cs).takeWhile (· = '/') = List.replicate n '/' := by
    rw [List.takeWhile_append_of_pos (by simp), hnone, List.append_nil]
  unfold leadingSlashes
  rw [hrun, List.length_replicate]
  match n, hn with
  | 0, _ => rfl
  | 1, _ => rfl
  | 2, _ => rfl

def route (p : FilePath) : List Char := List.intercalate ['/'] (p.names.map String.toList)

variable {p : FilePath} (h : p.IsNormal)

include h

theorem IsNormal.head?_route : p.route.head? ≠ some '/' := by
  unfold route
  cases hn : p.names with
  | nil => exact nofun
  | cons name names =>
    have hname := h.names name (hn ▸ List.mem_cons_self)
    obtain ⟨c, cs, hcs⟩ : ∃ c cs, name.toList = c :: cs := by
      rw [← List.ne_nil_iff_exists_cons]
      exact fun hnil => hname.nonempty (String.toList_eq_nil_iff.mp hnil)
    have hhead : (List.intercalate ['/'] ((name :: names).map String.toList)).head? = some c := by
      cases names with
      | nil => rw [List.map_singleton, List.intercalate_singleton, hcs, List.head?_cons]
      | cons next names =>
        rw [List.map_cons, List.map_cons, List.intercalate_cons_cons, hcs]
        rfl
    rw [hhead]
    rintro h
    cases h
    exact hname.whole (hcs ▸ List.mem_cons_self)

theorem IsNormal.names_route :
    ((p.route.splitOn '/').map String.ofList).filter (fun name => name ≠ "" && name ≠ ".") =
      p.names := by
  cases hn : p.names with
  | nil =>
    rw [route, hn]
    rfl
  | cons name names =>
    have hwhole : ∀ part ∈ p.names.map String.toList, '/' ∉ part := by
      intro part hpart
      obtain ⟨name, hname, rfl⟩ := List.mem_map.mp hpart
      exact (h.names name hname).whole
    rw [route, List.splitOn_intercalate '/' hwhole (by simp [hn]), ← hn, List.map_map]
    have hid : p.names.map (String.ofList ∘ String.toList) = p.names := by
      simp [Function.comp_def]
    rw [hid]
    refine List.filter_eq_self.mpr fun name hname => ?_
    have hkept := h.names name hname
    simp [hkept.nonempty, hkept.notDot]

/-- The text of a path leads back to the path. -/
theorem IsNormal.ofString_text : ofString p.text = p := by
  unfold text
  split
  · rename_i hempty
    rw [Bool.and_eq_true, decide_eq_true_eq, List.isEmpty_iff] at hempty
    obtain ⟨slashes, names⟩ := p
    obtain ⟨rfl, rfl⟩ := hempty
    decide
  · have htext : (String.ofList (List.replicate p.slashes '/') ++ "/".intercalate p.names).toList =
        List.replicate p.slashes '/' ++ p.route := by
      rw [String.toList_append, String.toList_ofList, String.toList_intercalate]
      rfl
    have hnames := h.names_route
    unfold ofString
    rw [htext, leadingSlashes_replicate h.slashes h.head?_route, splitOn_replicate, List.map_append,
      List.filter_append, hnames]
    have hnone : ((List.replicate p.slashes ([] : List Char)).map String.ofList).filter
        (fun name => name ≠ "" && name ≠ ".") = [] := by
      simp
    rw [hnone]
    rfl

omit h in
/-- Paths in normal form with one text are one path. -/
theorem IsNormal.eq_of_text {q : FilePath} (hp : p.IsNormal) (hq : q.IsNormal)
    (h : p.text = q.text) : p = q := by
  rw [← hp.ofString_text, h, hq.ofString_text]

end CrateUsage.FilePath
