import SearchBridge.Proofs.Accepted
import SearchBridge.Proofs.Bodies
import SearchBridge.Proofs.Delivery
import SearchBridge.Proofs.Turns
/-!
A whole export, from the settings to the text that is written.
-/

namespace SearchBridge

namespace Export

/-- Two outcomes that bring the same page but for the order and the repetition of its hits. -/
def PageAlike (o o' : Http.Outcome) : Prop :=
  o = o' ∨ ∃ root root' token hits hits', o.Brings root ∧ o'.Brings root' ∧
    PageObject root token hits ∧ PageObject root' token hits' ∧ ∀ hit, hit ∈ hits ↔ hit ∈ hits'

theorem PageAlike.symm {o o' : Http.Outcome} (h : PageAlike o o') : PageAlike o' o := by
  rcases h with rfl | ⟨root, root', token, hits, hits', hbrings, hbrings', hpage, hpage', hsame⟩
  · exact Or.inl rfl
  · exact Or.inr ⟨root', root, token, hits', hits, hbrings', hbrings, hpage', hpage,
      fun hit => (hsame hit).symm⟩

theorem PageAlike.good {o o' : Http.Outcome} {field token : Text} {ids : List Text}
    (h : PageAlike o o') (hgood : GoodPage field o token ids) :
    ∃ ids', GoodPage field o' token ids' ∧ ∀ id, id ∈ ids ↔ id ∈ ids' := by
  rcases h with rfl | ⟨root, root', token', hits, hits', hbrings, hbrings', hpage, hpage', hsame⟩
  · exact ⟨ids, hgood, fun id => Iff.rfl⟩
  · have hfound : GoodPage field o token' (SearchReply.idsOf field hits) :=
      ⟨root, hits, hbrings, hpage, rfl⟩
    obtain ⟨rfl, rfl⟩ := hgood.unique hfound
    refine ⟨_, ⟨root', hits', hbrings', hpage', rfl⟩, fun id => ?_⟩
    simp only [mem_idsOf, hsame]

section

variable {field : Text} {script script' : List Answer} {pages pages' : List (List Text)}

theorem PagesFrom.length_le (h : PagesFrom field script 0 pages)
    (h' : PagesFrom field script' 0 pages')
    (halike : ∀ n, PageAlike (outcomeAt script n) (outcomeAt script' n)) :
    pages'.length ≤ pages.length := by
  rcases Nat.lt_or_ge pages.length pages'.length with hlt | hge
  · obtain ⟨hne, token, hgood⟩ := h'.good pages.length _ (List.getElem?_eq_getElem hlt)
    obtain ⟨ids, hgood', hsame⟩ := (halike _).symm.good hgood
    obtain ⟨id, hid⟩ := List.exists_mem_of_ne_nil _ hne
    have hmem := (hsame id).mp hid
    rw [h.ends token ids hgood'] at hmem
    cases hmem
  · exact hge

/-- Pages that are alike have the same sets of ids. -/
theorem PagesFrom.alike (h : PagesFrom field script 0 pages)
    (h' : PagesFrom field script' 0 pages')
    (halike : ∀ n, PageAlike (outcomeAt script n) (outcomeAt script' n)) :
    pages.map IdSet.ofList = pages'.map IdSet.ofList := by
  have hlength : pages.length = pages'.length :=
    Nat.le_antisymm (h'.length_le h fun n => (halike n).symm) (h.length_le h' halike)
  apply List.ext_getElem
  · rw [List.length_map, List.length_map, hlength]
  · intro i hi hi'
    rw [List.length_map] at hi hi'
    rw [List.getElem_map, List.getElem_map]
    apply IdSet.ofList_congr
    obtain ⟨-, token, hgood⟩ := h.good i _ (List.getElem?_eq_getElem hi)
    obtain ⟨-, token', hgood'⟩ := h'.good i _ (List.getElem?_eq_getElem hi')
    obtain ⟨ids, hfound, hsame⟩ := (halike _).good hgood
    rw [(hgood'.unique hfound).2]
    exact hsame

end

/-- What a job makes of pages: their ids, each page in ascending order, and an exit code that tells
whether the page behind them is in order. -/
structure JobReport.Exports (report : JobReport) (field : Text) (script : List Answer)
    (pages : List (List Text)) : Prop where
  lines : report.lines = pages.flatMap fun ids => (IdSet.ofList ids).toList
  ending : report.ending = .exit 0 ∧
      (∃ token ids, GoodPage field (outcomeAt script pages.length) token ids) ∨
    report.ending = .exit 1 ∧
      ¬∃ token ids, GoodPage field (outcomeAt script pages.length) token ids
  closed : report.closed = true

/-- What the requests of an export meet that nothing cancels. -/
def Supply.meeting (outcomes : List Http.Outcome) (clock : Clock) : Supply :=
  ⟨outcomes.map (⟨false, ·⟩), [], clock⟩

theorem job_exports {x : Exporter} {supply : Supply} {field : Text}
    (hfield : x.plan.idField = .string field) (hlive : x.cancelled = false)
    (herror : x.error = none) (hanswers : ∀ a ∈ supply.answers, a.cancels = false)
    (hputs : NoneCancels supply.puts) (hclock : supply.clock.Reliable)
    (hcleared : ClearedRegularly supply.answers (x.run supply).events) :
    Undisturbed x supply ∧ ∃ pages, PagesFrom field supply.answers 0 pages ∧
      (job x supply none).Exports field supply.answers pages := by
  obtain ⟨pages, hbatches, hpages, hends, hcancelled⟩ :=
    (x.paging_course supply).delivers rfl hfield (cancelsAt_eq_false hanswers) hlive hputs hclock
  rw [Nat.zero_add] at hends
  have hx : Undisturbed x supply :=
    ⟨clearing_uncancelled hanswers hcancelled, hputs, clearedRegularly_iff_fault.mp hcleared⟩
  refine ⟨hx, pages, hpages, ?_⟩
  have hlines : (job x supply none).lines = pages.flatMap fun ids => (IdSet.ofList ids).toList := by
    rw [job_lines, runLines, Exporter.publishedBatches_run, hbatches, List.flatMap_map]
  have hmarked : Item.endOfStream ∈ published (x.run supply).events := by
    rw [hx.published_eq]
    exact List.mem_append_right _ List.mem_cons_self
  have hending := job_ending x supply
  rw [if_pos hmarked] at hending
  have hclosed : (job x supply none).closed = true :=
    JobReport.closed_iff.mpr (job_ends_iff.mpr hmarked)
  rcases error_of_endsWith herror hends with ⟨hnone, token, hgood⟩ | ⟨f, hsome, hfault⟩
  · rw [hnone] at hending
    exact ⟨hlines, Or.inl ⟨hending, token, [], hgood⟩, hclosed⟩
  · rw [hsome] at hending
    refine ⟨hlines, Or.inr ⟨hending, ?_⟩, hclosed⟩
    rintro ⟨token, ids, hgood⟩
    exact hgood.not_fault hfault

/-- A report says the same for pages that are alike. -/
theorem JobReport.Exports.alike {report report' : JobReport} {field : Text}
    {script script' : List Answer} {pages pages' : List (List Text)}
    (h : report.Exports field script pages) (h' : report'.Exports field script' pages')
    (hpages : PagesFrom field script 0 pages) (hpages' : PagesFrom field script' 0 pages')
    (halike : ∀ n, PageAlike (outcomeAt script n) (outcomeAt script' n)) :
    report'.lines = report.lines ∧ report'.ending = report.ending ∧
      report'.closed = report.closed := by
  have hsets := hpages.alike hpages' halike
  have hlength : pages.length = pages'.length := by
    simpa using congrArg List.length hsets
  have hlines (l : List (List Text)) : (l.flatMap fun ids => (IdSet.ofList ids).toList) =
      (l.map IdSet.ofList).flatMap (·.toList) := by
    rw [List.flatMap_map]
  refine ⟨?_, ?_, h'.closed.trans h.closed.symm⟩
  · rw [h.lines, h'.lines, hlines, hlines, hsets]
  · have hgood : (∃ token ids, GoodPage field (outcomeAt script pages.length) token ids) ↔
        ∃ token ids, GoodPage field (outcomeAt script' pages'.length) token ids := by
      rw [← hlength]
      constructor
      · rintro ⟨token, ids, hgood⟩
        obtain ⟨ids', hgood', -⟩ := (halike _).good hgood
        exact ⟨token, ids', hgood'⟩
      · rintro ⟨token, ids, hgood⟩
        obtain ⟨ids', hgood', -⟩ := (halike _).symm.good hgood
        exact ⟨token, ids', hgood'⟩
    rcases h.ending with ⟨hexit, hpage⟩ | ⟨hexit, hpage⟩
    · rcases h'.ending with ⟨hexit', -⟩ | ⟨-, hnot⟩
      · rw [hexit, hexit']
      · exact absurd (hgood.mp hpage) hnot
    · rcases h'.ending with ⟨-, hpage'⟩ | ⟨hexit', -⟩
      · exact absurd (hgood.mpr hpage') hpage
      · rw [hexit, hexit']

end Export

namespace Settings

open Export

variable {given : List (String × Json)} {environment : List (String × String)} {s : Settings}

/-- What meets the request that gives the cursor up is silence or a response of which a reply can be
made, whatever its status. -/
def ClearsRegularly (s : Settings) (supply : Supply) : Prop :=
  ∀ x, s.exporter = .ok x → ClearedRegularly supply.answers (x.run supply).events

theorem exportIds_eq {x : Exporter} (h : s.exporter = .ok x) (supply : Supply) :
    s.exportIds supply none = .ok (job x supply none) := by
  rw [exportIds, h]
  rfl

/-- What the settings describe exports the pages that the requests bring. -/
theorem exports_of_read (hread : read given environment = .ok s) {outcomes : List Http.Outcome}
    {clock : Clock} (hclock : clock.Reliable)
    (hclears : s.ClearsRegularly (.meeting outcomes clock)) :
    ∃ x, s.exporter = .ok x ∧ Undisturbed x (.meeting outcomes clock) ∧
      ∃ pages, PagesFrom idField (outcomes.map (⟨false, ·⟩)) 0 pages ∧
        (job x (.meeting outcomes clock) none).Exports idField (outcomes.map (⟨false, ·⟩))
          pages := by
  obtain ⟨x, hx, hfield, hlive, herror⟩ := exporter_of_read hread
  have hanswers : ∀ a ∈ (Supply.meeting outcomes clock).answers, a.cancels = false := by
    intro a ha
    obtain ⟨o, -, rfl⟩ := List.mem_map.mp ha
    rfl
  have hputs : NoneCancels (Supply.meeting outcomes clock).puts := by
    intro a ha
    cases ha
  exact ⟨x, hx, job_exports hfield hlive herror hanswers hputs hclock (hclears x hx)⟩

end Settings

namespace Export

/-- An export writes the ids of its pages, each page in ascending order and each id of a page once,
and its exit code tells whether the page behind them is in order. So does the job of an exporter and
a drain that take turns at a queue, however small the queue is and whatever the schedule. Neither
the times that the clock shows make a difference, nor the order or the repetition of the hits of a
page. -/
theorem export_writes_pages {given : List (String × Json)} {environment : List (String × String)}
    {s : Settings} (hread : Settings.read given environment = .ok s)
    (outcomes : List Http.Outcome) (now : Int) (later : List Int)
    (hclears : s.ClearsRegularly (.meeting outcomes (.telling now later))) :
    ∃ x pages report, s.exporter = .ok x ∧
      PagesFrom idField (outcomes.map (⟨false, ·⟩)) 0 pages ∧
      (∀ ids ∈ pages, (IdSet.ofList ids).toList.Pairwise (· < ·) ∧
        ∀ id, id ∈ (IdSet.ofList ids).toList ↔ id ∈ ids) ∧
      s.exportIds (.meeting outcomes (.telling now later)) none = .ok report ∧
      report.Exports idField (outcomes.map (⟨false, ·⟩)) pages ∧
      linesText report.lines = pages.flatMap (fun ids => linesText (IdSet.ofList ids).toList) ∧
      0 < s.queueSize.toNat ∧
      (∀ capacity schedule, 0 < capacity → Fair schedule → ∃ n, ∀ m, n ≤ m → ∃ report',
        (Joint.after x (.meeting outcomes (.telling now later)) capacity schedule m).report? x
          (.meeting outcomes (.telling now later)) = some report' ∧ report.Alike report') ∧
      (∀ outcomes' now' later', s.ClearsRegularly (.meeting outcomes' (.telling now' later')) →
        (∀ n, PageAlike (outcomeAt (outcomes.map (⟨false, ·⟩)) n)
          (outcomeAt (outcomes'.map (⟨false, ·⟩)) n)) →
        ∃ report', s.exportIds (.meeting outcomes' (.telling now' later')) none = .ok report' ∧
          report'.lines = report.lines ∧ report'.ending = report.ending ∧
          report'.closed = report.closed) := by
  obtain ⟨x, hx, hundisturbed, pages, hpages, hexports⟩ :=
    Settings.exports_of_read hread (Clock.reliable_telling now later) hclears
  have hqueue := (Settings.read_ok hread).2.2
  refine ⟨x, pages, job x (.meeting outcomes (.telling now later)) none, hx, hpages, ?_,
    Settings.exportIds_eq hx _, hexports, ?_, by omega, ?_, ?_⟩
  · intro ids _
    exact ⟨(IdSet.ofList ids).ascending, fun id => IdSet.mem_ofList⟩
  · rw [hexports.lines, linesText, List.flatMap_assoc]
    rfl
  · intro capacity schedule hcapacity hfair
    exact Joint.ends hundisturbed hcapacity hfair
  · intro outcomes' now' later' hclears' halike
    obtain ⟨x', hx', -, pages', hpages', hexports'⟩ :=
      Settings.exports_of_read hread (Clock.reliable_telling now' later') hclears'
    exact ⟨_, Settings.exportIds_eq hx' _, hexports.alike hexports' hpages hpages' halike⟩

/-- The settings that an address alone gives. -/
def sampleSettings : Settings where
  logLevel := "INFO"
  url := "http://h/c"
  keepAlive := "10m"
  continuation := "1m"
  batchSize := 1000
  queueSize := 10
  enqueueTimeout := .ofDecimal false 1 0
  requestTimeout := .ofDecimal false 30 0

theorem read_sampleSettings :
    Settings.read [("ES_URL", .string "http://h/c")] [] = .ok sampleSettings := rfl

/-- A page with ids, a page without, and a response to giving the cursor up. -/
def sampleOutcomes : List Http.Outcome := sampleSupply.answers.map (·.outcome)

theorem sampleSettings_export :
    ∃ pages report, PagesFrom idField (sampleOutcomes.map (⟨false, ·⟩)) 0 pages ∧
      sampleSettings.exportIds (.meeting sampleOutcomes (.telling 0 [])) none = .ok report ∧
      report.Exports idField (sampleOutcomes.map (⟨false, ·⟩)) pages := by
  have hclears : sampleSettings.ClearsRegularly (.meeting sampleOutcomes (.telling 0 [])) := by
    intro x hx
    have hfault : (sampleSettings.exporter.toOption.map fun x =>
        (x.clearing (.meeting sampleOutcomes (.telling 0 []))).fault) = some none := by
      decide +kernel
    rw [hx] at hfault
    exact clearedRegularly_iff_fault.mpr (Option.some.inj hfault)
  obtain ⟨x, pages, report, -, hpages, -, hreport, hexports, -⟩ :=
    export_writes_pages read_sampleSettings sampleOutcomes 0 [] hclears
  exact ⟨pages, report, hpages, hreport, hexports⟩

/-- The object of a page in order without hits. Another member of it holds arrays in one another. -/
def deepPage (n : Nat) : Json :=
  .object [("_scroll_id", .string "t"), ("hits", .object [("hits", .array [])]), ("trace", .nest n)]

theorem legible_deepPage (n : Nat) : (deepPage n).Legible := by
  have htoken : (Json.string "t").Legible := .string (Text.settled_ofString "t")
  have hhits : (Json.object [("hits", .array [])]).Legible := .member _ (.array (by simp))
  refine Json.legible_object [("_scroll_id", _), ("hits", _), ("trace", _)] (by simp) ?_
  simpa using ⟨htoken, hhits, Json.legible_nest n⟩

theorem not_fits_deepPage {depth n : Nat} (h : depth ≤ n) : ¬(deepPage n).Fits depth := by
  intro hfits
  exact Json.not_fits_nest h (hfits.member ("trace", .nest n) (by simp))

/-- The response that brings this page to a reader that takes so many containers in one another. -/
def deepResponse (n depth : Nat) : Http.Outcome :=
  .response ⟨200, Utf8.encode (deepPage n).text, none, none, depth⟩

/-- The only response is to the request that opens the cursor, so nothing irregular meets the one
that gives it up. -/
theorem clearsRegularly_single (s : Settings) (o : Http.Outcome) (clock : Clock) :
    s.ClearsRegularly (.meeting [o] clock) := by
  intro x _
  rw [clearedRegularly_iff]
  intro _
  simp [outcomeAt, Exporter.clearNumber, Supply.meeting, Http.Outcome.Regular]

theorem deepPage_fails {depth n : Nat} (h : depth ≤ n) :
    ∃ report, sampleSettings.exportIds (.meeting [deepResponse n depth] (.telling 0 [])) none =
        .ok report ∧ report.ending = .exit 1 := by
  obtain ⟨x, hx, -, pages, hpages, hexports⟩ :=
    Settings.exports_of_read read_sampleSettings (Clock.reliable_telling 0 [])
      (clearsRegularly_single sampleSettings (deepResponse n depth) _)
  have hbad : ∀ token ids, ¬GoodPage idField (deepResponse n depth) token ids := by
    rintro token ids ⟨root, hits, hbrings, -⟩
    exact Http.Response.not_brings_too_deep (legible_deepPage n) rfl (not_fits_deepPage h) root
      hbrings
  have hnone : pages = [] := by
    cases pages with
    | nil => rfl
    | cons ids rest =>
        obtain ⟨-, token, hgood⟩ := hpages.good 0 ids rfl
        exact absurd hgood (hbad token ids)
  refine ⟨_, Settings.exportIds_eq hx _, ?_⟩
  rcases hexports.ending with ⟨-, token, ids, hgood⟩ | ⟨hexit, -⟩
  · rw [hnone] at hgood
    exact absurd hgood (hbad token ids)
  · exact hexit

/-- A page in order is taken for one at fault if its reader takes no more containers in one another
than its object has. -/
theorem export_falls_short :
    (Unicode.decodeDetected? (Utf8.encode (deepPage 100000).text)).bind Json.read? =
        some (deepPage 100000) ∧
      PageObject (deepPage 100000) "t" [] ∧
      ∀ depth ≤ 100000,
        sampleSettings.ClearsRegularly
          (.meeting [deepResponse 100000 depth] (.telling 0 [])) ∧
        ∃ report, sampleSettings.exportIds
            (.meeting [deepResponse 100000 depth] (.telling 0 [])) none = .ok report ∧
          report.ending = .exit 1 :=
  ⟨(legible_deepPage 100000).read?_body, ⟨rfl, rfl, rfl⟩, fun _ hdepth =>
    ⟨clearsRegularly_single _ _ _, deepPage_fails hdepth⟩⟩

end Export

end SearchBridge
