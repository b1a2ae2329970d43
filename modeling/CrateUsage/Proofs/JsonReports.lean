import CrateUsage.Proofs.Batches
import CrateUsage.Proofs.Displays
import CrateUsage.Proofs.FirstCharacter
import CrateUsage.Proofs.JsonReading
import CrateUsage.Proofs.PathTexts

namespace CrateUsage

namespace Report

def IsError (v : Json.Value) : Prop := ∃ text, v = .object [("error", .text text)]

/-- The members of a report, one for each path, in ascending order. -/
def members (analyses : List FileAnalysis) : List (String × Json.Value) :=
  (Text.sorted (analyses.map (·.path.text)).eraseDups).filterMap fun path =>
    (lastOutcome? analyses path).map fun outcome => (path, outcomeValue outcome)

theorem nodup_eraseDups : ∀ names : List String, names.eraseDups.Nodup
  | [] => List.nodup_nil
  | name :: names => by
    rw [List.eraseDups_cons, List.nodup_cons]
    refine ⟨?_, nodup_eraseDups (names.filter fun other => !other == name)⟩
    intro hmem
    have hkept := (List.mem_filter.mp (List.mem_eraseDups.mp hmem)).2
    simp at hkept
termination_by names => names.length
decreasing_by
  have := List.length_filter_le (fun other => !other == name) names
  simp only [List.length_cons]
  omega

section Members

variable {analyses : List FileAnalysis}

theorem isSome_lastOutcome? {key : String} (h : key ∈ analyses.map (·.path.text)) :
    (lastOutcome? analyses key).isSome = true := by
  obtain ⟨a, ha, rfl⟩ := List.mem_map.mp h
  rw [lastOutcome?, Option.isSome_map, List.find?_isSome]
  exact ⟨a, List.mem_reverse.mpr ha, decide_eq_true rfl⟩

/-- A report has the paths of the analyses as keys, in ascending order and each of them once. -/
theorem keys_members : (members analyses).map (·.1) =
    Text.sorted (analyses.map (·.path.text)).eraseDups := by
  have hkeys : ∀ keys : List String, (∀ key ∈ keys, (lastOutcome? analyses key).isSome = true) →
      (keys.filterMap fun path =>
        (lastOutcome? analyses path).map fun outcome => (path, outcomeValue outcome)).map (·.1) =
        keys := by
    intro keys h
    induction keys with
    | nil => rfl
    | cons key keys ih =>
      obtain ⟨outcome, ho⟩ := Option.isSome_iff_exists.mp (h key List.mem_cons_self)
      rw [List.filterMap_cons, ho, Option.map_some, List.map_cons,
        ih fun other hk => h other (List.mem_cons_of_mem _ hk)]
  refine hkeys _ fun key hk => isSome_lastOutcome? ?_
  exact List.mem_eraseDups.mp (Text.mem_sorted.mp hk)

theorem nodup_keys_members : ((members analyses).map (·.1)).Nodup := by
  rw [keys_members]
  exact Text.nodup_sorted (nodup_eraseDups _)

theorem mem_keys_members {key : String} :
    key ∈ (members analyses).map (·.1) ↔ ∃ a ∈ analyses, a.path.text = key := by
  rw [keys_members, Text.mem_sorted, List.mem_eraseDups, List.mem_map]

/-- Each member of a report comes from an analysis of its path. -/
theorem exists_of_mem_members {key : String} {v : Json.Value} (h : (key, v) ∈ members analyses) :
    ∃ a ∈ analyses, a.path.text = key ∧ v = outcomeValue a.outcome := by
  obtain ⟨path, -, hmap⟩ := List.mem_filterMap.mp h
  obtain ⟨outcome, ho, hpair⟩ := Option.map_eq_some_iff.mp hmap
  obtain ⟨a, ha, rfl⟩ := Option.map_eq_some_iff.mp ho
  cases hpair
  refine ⟨a, List.mem_reverse.mp (List.mem_of_find?_eq_some ha), ?_, rfl⟩
  have htext := List.find?_some ha
  exact of_decide_eq_true htext

/-- Where analyses of one path agree, a report has them all. -/
theorem mem_members {a : FileAnalysis} (ha : a ∈ analyses)
    (hsame : ∀ b ∈ analyses, b.path.text = a.path.text → b.outcome = a.outcome) :
    (a.path.text, outcomeValue a.outcome) ∈ members analyses := by
  have hkey := mem_keys_members.mpr ⟨a, ha, rfl⟩
  obtain ⟨⟨key, v⟩, hm, hk⟩ := List.mem_map.mp hkey
  obtain ⟨b, hb, htext, rfl⟩ := exists_of_mem_members hm
  have hk : key = a.path.text := hk
  subst hk
  rw [hsame b hb htext] at hm
  exact hm

theorem not_isError_usageValue (u : Usage) : ¬IsError (usageValue u) := by
  rintro ⟨text, h⟩
  simp [usageValue] at h

theorem isError_outcomeValue {a : FileAnalysis}
    (h : (∃ usage, a.outcome = .ok usage) ∨ ∃ text, a.outcome = .error (some text)) :
    IsError (outcomeValue a.outcome) ↔ a.succeeded = false := by
  unfold FileAnalysis.succeeded
  rcases h with ⟨usage, h⟩ | ⟨text, h⟩
  · rw [h]
    exact ⟨fun he => absurd he (not_isError_usageValue usage), fun he => by cases he⟩
  · rw [h]
    exact ⟨fun _ => rfl, fun _ => ⟨text, rfl⟩⟩

end Members
end Report

namespace Batch

/-- An analysis is told by the path. -/
theorem Reports.unique {parse : Parser} {store : Store} {path : FilePath} {a b : FileAnalysis}
    (ha : Reports parse store path a) (hb : Reports parse store path b) : a = b := by
  have h := (ha.alone store rfl).symm.trans (hb.alone store rfl)
  cases h
  rfl

section

variable {parse : Parser} {store : Store} {paths : List FilePath} {as : List FileAnalysis}
  (h : List.Forall₂ (Reports parse store) paths as)

include h

theorem exists_report {path : FilePath} (hp : path ∈ paths) :
    ∃ a ∈ as, Reports parse store path a := by
  induction h with
  | nil => cases hp
  | cons hr _ ih =>
    rcases List.mem_cons.mp hp with rfl | hp
    · exact ⟨_, List.mem_cons_self, hr⟩
    · obtain ⟨a, ha, hr⟩ := ih hp
      exact ⟨a, List.mem_cons_of_mem _ ha, hr⟩

theorem exists_reported {a : FileAnalysis} (ha : a ∈ as) :
    ∃ path ∈ paths, Reports parse store path a := by
  induction h with
  | nil => cases ha
  | cons hr _ ih =>
    rcases List.mem_cons.mp ha with rfl | ha
    · exact ⟨_, List.mem_cons_self, hr⟩
    · obtain ⟨path, hp, hr⟩ := ih ha
      exact ⟨path, List.mem_cons_of_mem _ hp, hr⟩

/-- The keys of a report are the texts of the targets. -/
theorem mem_keys_reported {key : String} :
    key ∈ (Report.members as).map (·.1) ↔ ∃ path ∈ paths, path.text = key := by
  rw [Report.mem_keys_members]
  constructor
  · rintro ⟨a, ha, rfl⟩
    obtain ⟨path, hp, hr⟩ := exists_reported h ha
    exact ⟨path, hp, by rw [hr.named]⟩
  · rintro ⟨path, hp, rfl⟩
    obtain ⟨a, ha, hr⟩ := exists_report h hp
    exact ⟨a, ha, by rw [hr.named]⟩

variable (hn : ∀ path ∈ paths, path.IsNormal)

include hn

/-- Paths with the same text are the same path, so their analyses are the same. -/
theorem eq_of_text {a b : FileAnalysis} (ha : a ∈ as) (hb : b ∈ as)
    (ht : b.path.text = a.path.text) : b = a := by
  obtain ⟨p, hp, hra⟩ := exists_reported h ha
  obtain ⟨q, hq, hrb⟩ := exists_reported h hb
  rw [hra.named, hrb.named] at ht
  cases (hn q hq).eq_of_text (hn p hp) ht
  exact hrb.unique hra

/-- No analysis is lost to a later one of the same path. -/
theorem mem_members_of_analysis {a : FileAnalysis} (ha : a ∈ as) :
    (a.path.text, Report.outcomeValue a.outcome) ∈ Report.members as := by
  apply Report.mem_members ha
  intro b hb ht
  rw [eq_of_text h hn ha hb ht]

theorem exists_member {path : FilePath} (hp : path ∈ paths) :
    ∃ a, Reports parse store path a ∧
      ((∃ usage, a.outcome = .ok usage ∧
          (path.text, Report.usageValue usage) ∈ Report.members as) ∨
        ∃ text, a.outcome = .error (some text) ∧
          (path.text, .object [("error", .text text)]) ∈ Report.members as) := by
  obtain ⟨a, ha, hr⟩ := exists_report h hp
  have hmember := mem_members_of_analysis h hn ha
  rw [hr.named] at hmember
  refine ⟨a, hr, ?_⟩
  rcases hr.decided with ⟨usage, ho⟩ | ⟨text, ho⟩
  · rw [ho] at hmember
    exact .inl ⟨usage, ho, hmember⟩
  · rw [ho] at hmember
    exact .inr ⟨text, ho, hmember⟩

theorem exists_error_iff :
    (∃ member ∈ Report.members as, Report.IsError member.2) ↔ as.all (·.succeeded) = false := by
  have herror : ∀ a ∈ as, Report.IsError (Report.outcomeValue a.outcome) ↔
      a.succeeded = false := by
    intro a ha
    obtain ⟨path, -, hr⟩ := exists_reported h ha
    exact Report.isError_outcomeValue hr.decided
  rw [List.all_eq_false]
  constructor
  · rintro ⟨⟨key, v⟩, hmember, hv⟩
    obtain ⟨a, ha, -, rfl⟩ := Report.exists_of_mem_members hmember
    exact ⟨a, ha, Bool.eq_false_iff.mp ((herror a ha).mp hv)⟩
  · rintro ⟨a, ha, hfailed⟩
    exact ⟨_, mem_members_of_analysis h hn ha,
      (herror a ha).mpr (Bool.eq_false_iff.mpr hfailed)⟩

end

end Batch

theorem Target.hasNull_eq_false {store : Store} {path : FilePath}
    (h : rejection? store path = none) : path.hasNull = false := by
  cases hn : path.hasNull with
  | false => rfl
  | true =>
    rw [rejection?, hn] at h
    cases h

namespace CommandLine

theorem Reading.isNormal_of_request {s : Reading} {r : Request} (h : s.request = .ok r) :
    ∀ path ∈ r.targets, path.IsNormal := by
  unfold request at h
  split at h
  · cases h
  · split at h
    · cases h
      intro path hp
      obtain ⟨text, -, rfl⟩ := List.mem_map.mp hp
      exact FilePath.isNormal_ofString text
    · cases h

/-- All targets are read from texts. -/
theorem Command.isNormal_of_ofArguments {args : List String} {r : Request}
    (h : ofArguments args = .ok (.run r)) : ∀ path ∈ r.targets, path.IsNormal := by
  unfold ofArguments at h
  cases hroles : roles args with
  | error c =>
    rw [hroles] at h
    cases h
  | ok given =>
    cases hread : Reading.addGroups {} (groups given) with
    | error c =>
      simp only [hroles, bind, Except.bind, hread] at h
      cases h
    | ok s =>
      cases s with
      | none =>
        simp only [hroles, bind, Except.bind, hread] at h
        cases h
      | some s =>
        cases hs : s.request with
        | error c =>
          simp only [hroles, bind, Except.bind, hread, hs] at h
          cases h
        | ok q =>
          simp only [hroles, bind, Except.bind, hread, hs] at h
          cases h
          exact Reading.isNormal_of_request hs

section Rejections

variable {store : Store} {targets : List FilePath}

theorem firstRejection?_eq_none :
    firstRejection? store targets = none ↔
      ∀ path ∈ targets, Target.rejection? store path = none := by
  unfold firstRejection?
  rw [List.findSome?_eq_none_iff]
  simp only [Option.map_eq_none_iff]

theorem firstRejection?_congr {other : Store}
    (h : ∀ path ∈ targets, Target.rejection? other path = Target.rejection? store path) :
    firstRejection? other targets = firstRejection? store targets := by
  unfold firstRejection?
  induction targets with
  | nil => rfl
  | cons path targets ih =>
    rw [List.findSome?_cons, List.findSome?_cons, h path List.mem_cons_self,
      ih fun q hq => h q (List.mem_cons_of_mem _ hq)]

end Rejections

theorem isPlain_error : Console.IsPlain 'E' := by constructor <;> decide

section

variable {screen : Console.Screen} (hscreen : screen.ReadsMarkup)

include hscreen

theorem failure_begins {error : String} {lines : List String}
    (h : screen.print columns s!"[red]Error: {error}[/red]" = .ok lines) :
    ∃ line more, lines = String.ofList ('E' :: line) :: more := by
  cases hs : Console.Markup.shown s!"[red]Error: {error}[/red]" with
  | error f =>
    obtain ⟨g, hg⟩ := hscreen.print_error hs columns
    cases h.symm.trans hg
  | ok text =>
    have hbegins := hs
    rw [Report.failure_eq, Console.Markup.enclosed] at hbegins
    obtain ⟨more, rfl⟩ :=
      Console.Markup.shown_tagged_begins isPlain_error Console.Markup.encloses_red hbegins
    exact hscreen.print_head hs isPlain_error (by decide) h

/-- An error that is shown on the console is no document. -/
theorem ofDocument?_printed {error stdout : String}
    (h : printed s!"[red]Error: {error}[/red]" screen = .ok stdout) :
    Json.Value.ofDocument? stdout = none := by
  unfold printed at h
  cases hp : screen.print columns s!"[red]Error: {error}[/red]" with
  | error f =>
    rw [hp] at h
    cases h
  | ok lines =>
    obtain ⟨line, more, rfl⟩ := failure_begins hscreen hp
    rw [hp] at h
    have hout : stdout.toList = 'E' :: (line ++ '\n' :: (linesText more).toList) := by
      cases h
      rw [toList_linesText, toList_linesText, List.flatMap_cons, String.toList_ofList]
      simp
    have hskip := Json.skip_cons (rfl : Json.isBlank 'E' = false)
      (line ++ '\n' :: (linesText more).toList)
    rw [Json.Value.ofDocument?, hout]
    simp only [Json.Value.read, hskip]
    rfl

variable {parse : Parser} {store : Store} {r : Request}

/-- A target that is not worth an analysis ends the run before the first analysis. -/
theorem runRequest_of_rejection (h : ∃ path ∈ r.targets, Target.rejection? store path ≠ none) :
    (runRequest store r parse screen).2 = (if r.debug then [.debugging] else []) ∧
      (∀ other : Store,
        (∀ path ∈ r.targets, Target.rejection? other path = Target.rejection? store path) →
          runRequest other r parse screen = runRequest store r parse screen) ∧
      ∀ out, (runRequest store r parse screen).1 = .ok out →
        out.status = 1 ∧ Json.Value.ofDocument? out.stdout = none := by
  obtain ⟨rejected, hrejected⟩ : ∃ rejected, firstRejection? store r.targets = some rejected := by
    rw [← Option.ne_none_iff_exists']
    intro hnone
    obtain ⟨path, hp, hne⟩ := h
    exact hne (firstRejection?_eq_none.mp hnone path hp)
  obtain ⟨path, rejection⟩ := rejected
  refine ⟨?_, ?_, ?_⟩
  · unfold runRequest
    rw [hrejected]
    cases rejection <;> rfl
  · intro other ho
    unfold runRequest
    rw [firstRejection?_congr ho, hrejected]
    cases rejection <;> rfl
  · intro out hout
    have hprinted : ∀ (error stderr : String),
        ((printed s!"[red]Error: {error}[/red]" screen).map fun stdout =>
          ({ status := 1, stdout, stderr } : Output)) = .ok out →
          out.status = 1 ∧ Json.Value.ofDocument? out.stdout = none := by
      intro error stderr ho
      cases ht : printed s!"[red]Error: {error}[/red]" screen with
      | error f =>
        rw [ht] at ho
        cases ho
      | ok stdout =>
        rw [ht] at ho
        cases ho
        exact ⟨rfl, ofDocument?_printed hscreen ht⟩
    unfold runRequest at hout
    rw [hrejected] at hout
    cases rejection with
    | unknown f => cases hout
    | missing | notFile | notRust => exact hprinted _ _ hout

end

/-- Where all targets are worth an analysis, there is a report on each of them. -/
theorem runRequest_of_accepted {parse : Parser}
    (hparse : ∀ source, ∀ n ∈ (parse source).preorder, n.text.isSome = true) {store : Store}
    {r : Request} (hj : r.json = true)
    (h : ∀ path ∈ r.targets, Target.rejection? store path = none) (screen : Console.Screen) :
    ∃ out as, (runRequest store r parse screen).1 = .ok out ∧
      List.Forall₂ (Batch.Reports parse store) r.targets as ∧
      Json.Value.ofDocument? out.stdout = some (.object (Report.members as)) ∧
      out.status = if as.all (·.succeeded) then 0 else 1 := by
  obtain ⟨as, has, hreports⟩ := (Batch.analyses_isolated hparse store r.targets).1 fun path hp =>
    Target.hasNull_eq_false (h path hp)
  unfold runRequest
  rw [firstRejection?_eq_none.mpr h]
  cases hbatch : Batch.analyses store r.targets parse with
  | mk result log =>
    rw [hbatch] at has
    cases has
    have htext : reportText r.json as screen = .ok ((Report.document as).render ++ "\n") := by
      rw [reportText, hj, if_pos rfl]
    have hdocument := Json.Value.ofDocument?_render (Report.document as) (by decide :
      "\n".toList.all Json.isBlank = true)
    dsimp only
    rw [htext]
    exact ⟨_, as, rfl, hreports, hdocument, rfl⟩

end CommandLine
end CrateUsage
