import SearchBridge.Proofs.BrokenOutput
/-!
Reading the ids of an export back from its text.

Each id is written as it is with a line feed behind it, and a line feed inside an id is nothing
special. So the lines of the text are the ids of the pages exactly if no id has a line feed in it;
with one, there are more lines than ids, and another export may have written the same text.
-/

namespace SearchBridge

namespace Export

def lineFeed : Point := .char '\n'

/-- The lines of a text, without the line feeds that close them. The last one need not be closed. -/
def linesOf : Text → List Text
  | [] => []
  | p :: rest =>
    if p = lineFeed then [] :: linesOf rest
    else
      match linesOf rest with
      | [] => [[p]]
      | line :: more => (p :: line) :: more

theorem linesText_cons (line : Text) (lines : List Text) :
    linesText (line :: lines) = line ++ lineFeed :: linesText lines := by
  simp [linesText, lineFeed]

theorem linesOf_line {line : Text} (h : lineFeed ∉ line) (rest : Text) :
    linesOf (line ++ lineFeed :: rest) = line :: linesOf rest := by
  induction line with
  | nil => simp [linesOf]
  | cons p line ih =>
      obtain ⟨hp, hline⟩ := List.ne_and_not_mem_of_not_mem_cons h
      rw [List.cons_append, linesOf, if_neg (Ne.symm hp), ih hline]

/-- Lines that have no line feed in them are read back. -/
theorem linesOf_linesText {lines : List Text} (h : ∀ line ∈ lines, lineFeed ∉ line) :
    linesOf (linesText lines) = lines := by
  induction lines with
  | nil => rfl
  | cons line lines ih =>
      obtain ⟨hline, hlines⟩ := List.forall_mem_cons.mp h
      rw [linesText_cons, linesOf_line hline, ih hlines]

theorem lineFeed_not_mem_linesOf (t : Text) : ∀ line ∈ linesOf t, lineFeed ∉ line := by
  induction t with
  | nil => simp [linesOf]
  | cons p rest ih =>
      rw [linesOf]
      split
      · exact List.forall_mem_cons.mpr ⟨List.not_mem_nil, ih⟩
      · next hp =>
        have hfirst (line : Text) (hline : lineFeed ∉ line) : lineFeed ∉ p :: line := by
          rw [List.mem_cons, not_or]
          exact ⟨Ne.symm hp, hline⟩
        split
        · exact List.forall_mem_singleton.mpr (hfirst [] List.not_mem_nil)
        · next line more heq =>
          rw [heq] at ih
          obtain ⟨hline, hmore⟩ := List.forall_mem_cons.mp ih
          exact List.forall_mem_cons.mpr ⟨hfirst line hline, hmore⟩

/-- Each line feed closes a line. -/
theorem length_linesOf (t rest : Text) :
    (linesOf (t ++ lineFeed :: rest)).length = t.count lineFeed + 1 + (linesOf rest).length := by
  induction t with
  | nil =>
      simp only [List.nil_append, linesOf, if_true, List.length_cons, List.count_nil]
      omega
  | cons p t ih =>
      rw [List.cons_append, linesOf]
      split
      · next hp =>
        rw [List.length_cons, ih, hp, List.count_cons_self]
        omega
      · next hp =>
        rw [List.count_cons_of_ne hp, ← ih]
        split
        · next hnone =>
          rw [hnone, List.length_nil] at ih
          omega
        · next line more heq => rw [heq, List.length_cons, List.length_cons]

/-- There is one line for each that is written and one for each line feed in it. -/
theorem length_linesOf_linesText (lines : List Text) :
    (linesOf (linesText lines)).length = lines.length + lines.flatten.count lineFeed := by
  induction lines with
  | nil => rfl
  | cons line lines ih =>
      rw [linesText_cons, length_linesOf, ih, List.length_cons, List.flatten_cons,
        List.count_append]
      omega

/-- The batches of a course are the pages with ids that its requests bring, one after the other. -/
theorem Course.exists_pages {p : Plan} {script : List Answer} {n : Nat} {r : Http.Request}
    {token : Option Text} {stage : Stage} {out : Paging} {field : Text}
    (h : Course p script n r token stage out) (hfield : p.idField = .string field) :
    ∃ pages : List (List Text), out.batches = pages.map IdSet.ofList ∧
      ∀ i ids, pages[i]? = some ids →
        ids ≠ [] ∧ ∃ token, GoodPage field (outcomeAt script (n + i)) token ids := by
  induction h with
  | lost _ => exact ⟨[], rfl, by simp⟩
  | stopped _ _ => exact ⟨[], rfl, by simp⟩
  | faulty _ _ _ => exact ⟨[], rfl, by simp⟩
  | complete _ _ _ => exact ⟨[], rfl, by simp⟩
  | refused _ _ => exact ⟨[], rfl, by simp⟩
  | @next n r token stage root fresh ids rest hoffer _ _ ih =>
      obtain ⟨pages, hbatches, hpages⟩ := ih
      refine ⟨ids :: pages, ?_, fun i found hfound => ?_⟩
      · simp only [Paging.after, hbatches, List.map_cons, List.singleton_append]
      · cases i with
        | zero =>
            cases hfound
            exact ⟨hoffer.filled, goodPage_of_ids hfield hoffer.brings hoffer.ids_eq⟩
        | succ i =>
            have hlater := hpages i found hfound
            rwa [Nat.add_right_comm] at hlater

/-- What the text of an export tells of the ids of its pages. -/
structure JobReport.ListsIds (report : JobReport) (pages : List (List Text)) : Prop where
  /-- The ids of each page are written in ascending order, each once. -/
  lines : report.lines = pages.flatMap fun ids => (IdSet.ofList ids).toList
  /-- The lines of the text are these ids exactly if no id has a line feed in it. -/
  readsBack_iff : linesOf (linesText report.lines) = report.lines ↔
    ∀ ids ∈ pages, ∀ id ∈ ids, lineFeed ∉ id
  /-- So is their number: each line feed in an id makes one line too many. -/
  count_iff : (linesOf (linesText report.lines)).length = report.lines.length ↔
    ∀ ids ∈ pages, ∀ id ∈ ids, lineFeed ∉ id
  excess : (linesOf (linesText report.lines)).length =
    report.lines.length + report.lines.flatten.count lineFeed
  /-- Of ids without a line feed the text is that of no other ids without one. -/
  determined : (∀ ids ∈ pages, ∀ id ∈ ids, lineFeed ∉ id) → ∀ others : List Text,
    (∀ id ∈ others, lineFeed ∉ id) → linesText others = linesText report.lines →
      others = report.lines

/-- The ids of pages are what is written of them, for whatever holds of each. -/
theorem forall_mem_lines {pages : List (List Text)} {holds : Text → Prop} :
    (∀ id ∈ pages.flatMap fun ids => (IdSet.ofList ids).toList, holds id) ↔
      ∀ ids ∈ pages, ∀ id ∈ ids, holds id := by
  simp only [List.mem_flatMap, IdSet.mem_ofList, forall_exists_index, and_imp]
  exact ⟨fun h ids hids id hid => h id ids hids hid, fun h id ids hids hid => h ids hids id hid⟩

theorem JobReport.ListsIds.of_lines {report : JobReport} {pages : List (List Text)}
    (h : report.lines = pages.flatMap fun ids => (IdSet.ofList ids).toList) :
    report.ListsIds pages := by
  have hplain : (∀ line ∈ report.lines, lineFeed ∉ line) ↔
      ∀ ids ∈ pages, ∀ id ∈ ids, lineFeed ∉ id := by
    rw [h]
    exact forall_mem_lines
  have hcount : report.lines.flatten.count lineFeed = 0 ↔
      ∀ line ∈ report.lines, lineFeed ∉ line := by
    simp only [List.count_eq_zero, List.mem_flatten, not_exists, not_and]
  constructor
  case lines => exact h
  case excess => exact length_linesOf_linesText report.lines
  case readsBack_iff =>
    rw [← hplain]
    constructor
    · intro hback line hline
      rw [← hback] at hline
      exact lineFeed_not_mem_linesOf _ line hline
    · exact linesOf_linesText
  case count_iff =>
    rw [length_linesOf_linesText, ← hplain, ← hcount]
    omega
  case determined =>
    intro hids others hothers hsame
    calc others = linesOf (linesText others) := (linesOf_linesText hothers).symm
      _ = linesOf (linesText report.lines) := congrArg linesOf hsame
      _ = report.lines := linesOf_linesText (hplain.mpr hids)

/-- An export writes the ids of the pages that it publishes, and counts them. Its text has one line
for each of them, and no other ids of one line each have that text, exactly if no id has a line
feed in it. -/
theorem export_lists_ids_iff {given : List (String × Json)} {environment : List (String × String)}
    {s : Settings} (hread : Settings.read given environment = .ok s) (supply : Supply) :
    ∃ x report pages, s.exporter = .ok x ∧ s.exportIds supply none = .ok report ∧
      (∀ i ids, pages[i]? = some ids →
        ids ≠ [] ∧ ∃ token, GoodPage idField (outcomeAt supply.answers i) token ids) ∧
      report.activity.map (publishedBatches ·.events) = some (pages.map IdSet.ofList) ∧
      report.lines.length = (x.run supply).exporter.idsExported ∧ report.ListsIds pages := by
  obtain ⟨x, hx, hfield, -⟩ := Settings.exporter_of_read hread
  obtain ⟨plan, hcreate⟩ := Settings.exporter_created hx
  obtain ⟨pages, hbatches, hpages⟩ := (x.paging_course supply).exists_pages hfield
  have hpublished : publishedBatches (x.run supply).events = pages.map IdSet.ofList := by
    rw [Exporter.publishedBatches_run, hbatches]
  have hlines : (job x supply none).lines =
      pages.flatMap fun ids => (IdSet.ofList ids).toList := by
    rw [job_lines, runLines, hpublished, List.flatMap_map]
  refine ⟨x, job x supply none, pages, hx, Settings.exportIds_eq hx supply, ?_, ?_, ?_,
    .of_lines hlines⟩
  · intro i ids hids
    have hpage := hpages i ids hids
    rwa [Nat.zero_add] at hpage
  · have hevents := congrArg (Option.map publishedBatches) (job_events x supply)
    rw [Option.map_map, Option.map_some, hpublished] at hevents
    exact hevents
  · rw [job_lines, runLines, Exporter.run_idsExported, Exporter.eq_of_create hcreate, Nat.zero_add]

theorem sampleSettings_lists_ids :
    Settings.read [("ES_URL", .string "http://h/c")] [] = .ok sampleSettings ∧
      ∃ x report pages, sampleSettings.exporter = .ok x ∧
        sampleSettings.exportIds (.meeting twoPages .start) none = .ok report ∧
        report.activity.map (publishedBatches ·.events) = some (pages.map IdSet.ofList) ∧
        report.ListsIds pages := by
  obtain ⟨x, report, pages, hx, hreport, -, hpublished, -, hlists⟩ :=
    export_lists_ids_iff read_sampleSettings (.meeting twoPages .start)
  exact ⟨read_sampleSettings, x, report, pages, hx, hreport, hpublished, hlists⟩

/-- A page whose only id is two lines long. -/
def foldedPages : List Http.Outcome :=
  [hitPage "t" "a\\nb", emptyPage, sampleAnswer ""].map (·.outcome)

/-- What can be read off a report can be read off the export that returns it. -/
theorem exists_report {α : Type} {e : Except Failure JobReport} {f : JobReport → α} {v : α}
    (h : e.toOption.map f = some v) : ∃ report, e = .ok report ∧ f report = v := by
  cases e with
  | error _ => cases h
  | ok report => exact ⟨report, rfl, Option.some.inj h⟩

/-- One id that has a line feed in it makes two lines, and they are those of two ids. -/
theorem one_id_on_two_lines : ∃ folded two,
    sampleSettings.exportIds (.meeting foldedPages .start) none = .ok folded ∧
      sampleSettings.exportIds (.meeting twoPages .start) none = .ok two ∧
      folded.lines = [("a\nb" : Text)] ∧ folded.ending = .exit 0 ∧
      two.lines = [("a" : Text), "b"] ∧ two.ending = .exit 0 ∧
      linesOf (linesText folded.lines) = [("a" : Text), "b"] ∧
      linesText folded.lines = linesText two.lines := by
  have hfoldedFacts : (sampleSettings.exportIds (.meeting foldedPages .start) none).toOption.map
      (fun report => (report.lines, report.ending)) = some ([("a\nb" : Text)], .exit 0) := by
    decide +kernel
  have htwoFacts : (sampleSettings.exportIds (.meeting twoPages .start) none).toOption.map
      (fun report => (report.lines, report.ending)) = some ([("a" : Text), "b"], .exit 0) := by
    decide +kernel
  obtain ⟨folded, hfolded, hone⟩ := exists_report hfoldedFacts
  obtain ⟨two, hexport, htwo⟩ := exists_report htwoFacts
  obtain ⟨honeLines, honeEnds⟩ := Prod.mk.inj hone
  obtain ⟨htwoLines, htwoEnds⟩ := Prod.mk.inj htwo
  refine ⟨folded, two, hfolded, hexport, honeLines, honeEnds, htwoLines, htwoEnds, ?_, ?_⟩
  · rw [honeLines]
    decide +kernel
  · rw [honeLines, htwoLines]
    decide +kernel

end Export

end SearchBridge
