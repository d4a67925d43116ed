import SearchBridge.Proofs.Terminal
import SearchBridge.Proofs.Undisturbed
/-!
What a run that nothing cancels delivers.

The pages that are in order and have ids are delivered one after the other, up to the first page
that is not of this kind. That page decides how the paging ends: completely if it is in order, and
otherwise with what is wrong with it.
-/

namespace SearchBridge

namespace Export

theorem GoodPage.unique {field : Text} {o : Http.Outcome} {token token' : Text}
    {ids ids' : List Text} (h : GoodPage field o token ids) (h' : GoodPage field o token' ids') :
    token = token' ∧ ids = ids' := by
  obtain ⟨root, hits, hbrings, hpage, rfl⟩ := h
  obtain ⟨root', hits', hbrings', hpage', rfl⟩ := h'
  cases hbrings.unique hbrings'
  obtain ⟨rfl, rfl⟩ := hpage.unique hpage'
  exact ⟨rfl, rfl⟩

/-- The ids of the pages that the requests from number `n` on bring, up to the first page that is
not in order or has no ids. -/
structure PagesFrom (field : Text) (script : List Answer) (n : Nat) (pages : List (List Text)) :
    Prop where
  good : ∀ i ids, pages[i]? = some ids →
    ids ≠ [] ∧ ∃ token, GoodPage field (outcomeAt script (n + i)) token ids
  ends : ∀ token ids, GoodPage field (outcomeAt script (n + pages.length)) token ids → ids = []

/-- What the page that ends the paging makes of it. -/
inductive EndsWith (field : Text) (url : String) (o : Http.Outcome) : Ending → Prop
  | complete {token : Text} : GoodPage field o token [] → EndsWith field url o .complete
  | failed {f : Failure} : PageFault url o f → EndsWith field url o (.failed f)

theorem EndsWith.ids_eq_nil {field : Text} {url : String} {o : Http.Outcome} {ending : Ending}
    {token : Text} {ids : List Text} (h : EndsWith field url o ending)
    (hgood : GoodPage field o token ids) : ids = [] := by
  cases h with
  | complete hempty => exact (hgood.unique hempty).2
  | failed hfault => exact absurd hfault hgood.not_fault

theorem PagesFrom.nil {field : Text} {script : List Answer} {n : Nat} {url : String}
    {ending : Ending} (h : EndsWith field url (outcomeAt script n) ending) :
    PagesFrom field script n [] where
  good := by simp
  ends := fun _ _ hgood => h.ids_eq_nil hgood

theorem PagesFrom.cons {field : Text} {script : List Answer} {n : Nat} {token : Text}
    {ids : List Text} {pages : List (List Text)} (hne : ids ≠ [])
    (hgood : GoodPage field (outcomeAt script n) token ids)
    (h : PagesFrom field script (n + 1) pages) : PagesFrom field script n (ids :: pages) where
  good := by
    intro i found hfound
    cases i with
    | zero =>
        cases hfound
        exact ⟨hne, token, hgood⟩
    | succ i =>
        have hlater := h.good i found hfound
        rwa [Nat.add_right_comm] at hlater
  ends := by
    intro token' ids' hgood'
    apply h.ends token' ids'
    rwa [Nat.add_right_comm]

/-- A course that nothing cancels delivers page after page. -/
theorem Course.delivers {p : Plan} {script : List Answer} {n : Nat} {r : Http.Request}
    {token : Option Text} {stage : Stage} {out : Paging} {field : Text}
    (h : Course p script n r token stage out) (hpost : r.method = .post)
    (hfield : p.idField = .string field) (hanswers : ∀ m, cancelsAt script m = false)
    (hlive : stage.cancelled = false) (hputs : NoneCancels stage.puts)
    (hclock : stage.clock.Reliable) :
    ∃ pages, out.batches = pages.map IdSet.ofList ∧ PagesFrom field script n pages ∧
      EndsWith field (if pages = [] then r.url else p.scrollUrl)
        (outcomeAt script (n + pages.length)) out.ending ∧
      out.stage.cancelled = false := by
  induction h with
  | @lost n r token stage f hfetch =>
      have hends : EndsWith field r.url (outcomeAt script n) (.failed f) :=
        .failed (fetch_fault hpost hfetch)
      exact ⟨[], rfl, .nil hends, hends, by simp [Stage.passed, hlive, hanswers]⟩
  | stopped _ hcancelled =>
      simp [Stage.passed, hlive, hanswers] at hcancelled
  | @faulty n r token stage root f hbrings _ hids =>
      rcases (readPage_reliable root hfield hclock).2 with ⟨_, hread⟩ | ⟨fault, hread, hfault⟩
      · rw [hids] at hread
        cases hread
      · rw [hids] at hread
        cases hread
        have hends : EndsWith field r.url (outcomeAt script n) (.failed (.reply fault)) :=
          .failed (.lacking hbrings hfault)
        exact ⟨[], rfl, .nil hends, hends, rfl⟩
  | @complete n r token stage root hbrings _ hids =>
      obtain ⟨found, hgood⟩ := goodPage_of_ids hfield hbrings hids
      have hends : EndsWith field r.url (outcomeAt script n) .complete := .complete hgood
      exact ⟨[], rfl, .nil hends, hends, rfl⟩
  | refused _ hrefused =>
      rw [(offered_uncancelled _ _ _ hputs).1] at hrefused
      cases hrefused
  | @next n r token stage root fresh ids rest hoffer haccepted _ ih =>
      obtain ⟨-, hflag, hleft, -⟩ := offered_uncancelled p stage ids hputs
      obtain ⟨found, hgood⟩ := goodPage_of_ids hfield hoffer.brings hoffer.ids_eq
      obtain ⟨pages, hbatches, hpages, hends, hcancelled⟩ :=
        ih rfl (by rw [Stage.published, hflag]; rfl) hleft (readPage_reliable root hfield hclock).1
      refine ⟨ids :: pages, ?_, .cons hoffer.filled hgood hpages, ?_, hcancelled⟩
      · simp only [Paging.after, hbatches, List.map_cons, List.singleton_append]
      · have hurl : (if pages = [] then (p.nextRequest fresh).url else p.scrollUrl) =
            p.scrollUrl := by split <;> rfl
        rw [hurl, Nat.add_right_comm] at hends
        exact hends

section

variable {x : Exporter} {supply : Supply}

theorem cancelsAt_eq_false {script : List Answer} (h : ∀ a ∈ script, a.cancels = false) (m : Nat) :
    cancelsAt script m = false := by
  unfold cancelsAt
  rw [List.head?_drop]
  cases hanswer : script[m]? with
  | none => rfl
  | some answer => exact h answer (List.mem_of_getElem? hanswer)

/-- Giving the cursor up does not cancel a run by itself. -/
theorem clearing_uncancelled (hanswers : ∀ a ∈ supply.answers, a.cancels = false)
    (hlive : (x.paging supply).stage.cancelled = false) :
    (x.clearing supply).cancelled = false := by
  cases htoken : (x.paging supply).token with
  | none => rw [Exporter.clearing_none htoken, hlive]
  | some token =>
      rw [Exporter.clearing_eq htoken, (clear_drop _ _ _ _ _).2.1, hlive,
        cancelsAt_eq_false hanswers]
      rfl

theorem error_of_endsWith {field : Text} {url : String} {o : Http.Outcome} (herror : x.error = none)
    (h : EndsWith field url o (x.paging supply).ending) :
    ((x.run supply).exporter.error = none ∧ ∃ token, GoodPage field o token []) ∨
      ∃ f, (x.run supply).exporter.error = some f ∧ PageFault url o f := by
  have hkept : (x.run supply).exporter.error = x.errorAfter supply := by
    rw [x.run_eq]
    rfl
  rw [hkept, Exporter.errorAfter, herror]
  generalize (x.paging supply).ending = ending at h ⊢
  cases h with
  | complete hgood => exact Or.inl ⟨rfl, _, hgood⟩
  | failed hfault => exact Or.inr ⟨_, rfl, hfault⟩

end

/-- What a run delivers that comes to its end: the ids of its pages, each page as a set, and then
the mark. -/
structure Run.Delivers (run : Run) (pages : List (List Text)) : Prop where
  returns : run.fault = none
  done : run.exporter.done = true
  items : published run.events =
    pages.map (fun ids => .batch (IdSet.ofList ids)) ++ [.endOfStream]

/-- A run that nothing cancels delivers its pages exactly if what meets the request that gives the
cursor up is regular. Otherwise the mark alone is missing. The error that is kept is that of the
page behind them, and a full queue makes a difference to nothing but the attempts. -/
theorem run_delivers_pages (x : Exporter) (supply : Supply) (field : Text)
    (hfield : x.plan.idField = .string field) (hlive : x.cancelled = false)
    (herror : x.error = none) (hanswers : ∀ a ∈ supply.answers, a.cancels = false)
    (hputs : NoneCancels supply.puts) (hclock : supply.clock.Reliable) :
    ∃ pages, PagesFrom field supply.answers 0 pages ∧
      (∀ ids ∈ pages, (IdSet.ofList ids).toList ≠ [] ∧
        ∀ id, id ∈ (IdSet.ofList ids).toList ↔ id ∈ ids) ∧
      ((x.run supply).Delivers pages ↔
        ClearedRegularly supply.answers (x.run supply).events) ∧
      (¬ClearedRegularly supply.answers (x.run supply).events →
        published (x.run supply).events = pages.map fun ids => .batch (IdSet.ofList ids)) ∧
      ((x.run supply).exporter.error = none ↔
        ∃ token ids, GoodPage field (outcomeAt supply.answers pages.length) token ids) ∧
      (∀ f, (x.run supply).exporter.error = some f →
        PageFault (if pages = [] then x.plan.openRequest.url else x.plan.scrollUrl)
          (outcomeAt supply.answers pages.length) f) ∧
      ∀ puts, NoneCancels puts →
        (x.run { supply with puts := puts }).exporter = (x.run supply).exporter ∧
          (x.run { supply with puts := puts }).events.filter Event.isSettled =
            (x.run supply).events.filter Event.isSettled ∧
          (x.run { supply with puts := puts }).log = (x.run supply).log ∧
          (x.run { supply with puts := puts }).fault = (x.run supply).fault := by
  obtain ⟨pages, hbatches, hpages, hends, hcancelled⟩ :=
    (x.paging_course supply).delivers rfl hfield (cancelsAt_eq_false hanswers) hlive hputs hclock
  rw [Nat.zero_add] at hends
  have hpaged : published (x.paging supply).events =
      pages.map fun ids => .batch (IdSet.ofList ids) := by
    rw [(x.paging_course supply).published_eq, hbatches, List.map_map]
    rfl
  refine ⟨pages, hpages, ?_, ?_, ?_, ?_, ?_, fun puts hputs' =>
    run_other_puts x supply hputs puts hputs'⟩
  · intro ids hids
    refine ⟨fun hnil => ?_, fun id => IdSet.mem_ofList⟩
    obtain ⟨i, hi⟩ := List.mem_iff_getElem?.mp hids
    obtain ⟨first, hfirst⟩ := List.exists_mem_of_ne_nil ids (hpages.good i ids hi).1
    have hmem := IdSet.mem_ofList.mpr hfirst
    rw [hnil] at hmem
    cases hmem
  · rw [clearedRegularly_iff_fault]
    constructor
    · intro h
      rw [← x.run_fault]
      exact h.returns
    · intro hfault
      have hterminal := terminal_of_cleared hfault
      refine ⟨hterminal.returns, hterminal.done, ?_⟩
      have hundisturbed : Undisturbed x supply :=
        ⟨clearing_uncancelled hanswers hcancelled, hputs, hfault⟩
      rw [hundisturbed.published_eq, Undisturbed.items, hbatches, List.map_map]
      rfl
  · rw [clearedRegularly_iff_fault]
    intro hbroken
    rw [x.run_published, hpaged, Exporter.closing_broken hbroken]
    exact List.append_nil _
  · rcases error_of_endsWith herror hends with ⟨hnone, token, hgood⟩ | ⟨f, hsome, hfault⟩
    · exact ⟨fun _ => ⟨token, [], hgood⟩, fun _ => hnone⟩
    · rw [hsome]
      constructor
      · intro hnone
        cases hnone
      · rintro ⟨token, ids, hgood⟩
        exact absurd hfault hgood.not_fault
  · intro f hf
    rcases error_of_endsWith herror hends with ⟨hnone, -⟩ | ⟨f', hsome, hfault⟩
    · rw [hnone] at hf
      cases hf
    · rw [hsome] at hf
      cases hf
      exact hfault

/-- A page with two ids, one of them twice, that the queue accepts at the second attempt, a page
without ids, and a response to giving the cursor up. -/
def sampleSupply : Supply where
  answers := [
    sampleAnswer ("\x7b\"_scroll_id\":\"s\",\"hits\":\x7b\"hits\":[\x7b\"_id\":\"b\"\x7d," ++
      "\x7b\"_id\":\"a\"\x7d,\x7b\"_id\":\"b\"\x7d]\x7d\x7d"),
    emptyPage,
    sampleAnswer ""]
  puts := [⟨false, false⟩]
  clock := .start

theorem sampleSupply_delivers :
    ∃ pages, PagesFrom "_id" sampleSupply.answers 0 pages ∧
      (sampleExporter.run sampleSupply).Delivers pages := by
  have hanswers : ∀ a ∈ sampleSupply.answers, a.cancels = false := by
    simp [sampleSupply, sampleAnswer, emptyPage]
  have hputs : NoneCancels sampleSupply.puts := by simp [sampleSupply, NoneCancels]
  have hclock : sampleSupply.clock.Reliable := by simp [sampleSupply, Clock.Reliable, Clock.start]
  obtain ⟨pages, hpages, -, hdelivers, -⟩ :=
    run_delivers_pages sampleExporter sampleSupply "_id" rfl rfl rfl hanswers hputs hclock
  have hfault : (sampleExporter.clearing sampleSupply).fault = none := by decide +kernel
  exact ⟨pages, hpages, hdelivers.mpr (clearedRegularly_iff_fault.mpr hfault)⟩

/-- A response of which no reply can be made: its content type names the character set both whole
and in pieces. -/
def unreadable : Answer :=
  ⟨false, .response
    (.recorded 500 (Utf8.encode "boom") (some "text/plain; charset*=a; charset*0=b"))⟩

/-- An answer that cannot be read breaks a complete export off before the end is marked. -/
theorem delivery_broken_by_clearing :
    (∃ response, outcomeAt [emptyPage, unreadable] 1 = .response response) ∧
      ¬∃ pages, (sampleExporter.run ⟨[emptyPage, unreadable], [], .start⟩).Delivers pages := by
  refine ⟨⟨_, rfl⟩, ?_⟩
  rintro ⟨pages, h⟩
  have hdone : (sampleExporter.run
      ⟨[emptyPage, unreadable], [], .start⟩).exporter.done = false := by decide +kernel
  rw [h.done] at hdone
  cases hdone

end Export

end SearchBridge
