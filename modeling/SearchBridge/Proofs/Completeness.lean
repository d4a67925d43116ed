import SearchBridge.Proofs.Cancellation
import SearchBridge.Proofs.Delivery
import SearchBridge.Proofs.Report
/-!
What is missing when a run ends without an error.

Nothing of the pages that a run received is ever missing. But it takes a page for the last one as
soon as none of its hits has an id, so it leaves pages behind it unread if such a page has hits.
-/

namespace SearchBridge

namespace Export

/-- Request number `n` is answered by a page in order with these hits. -/
def HitsAt (script : List Answer) (n : Nat) (hits : List Json) : Prop :=
  ∃ root token, (outcomeAt script n).Brings root ∧ PageObject root token hits

theorem HitsAt.unique {script : List Answer} {n : Nat} {hits hits' : List Json}
    (h : HitsAt script n hits) (h' : HitsAt script n hits') : hits = hits' := by
  obtain ⟨root, token, hbrings, hpage⟩ := h
  obtain ⟨root', token', hbrings', hpage'⟩ := h'
  cases hbrings.unique hbrings'
  exact (hpage.unique hpage').2

namespace Course

variable {p : Plan} {script : List Answer} {n : Nat} {r : Http.Request} {token : Option Text}
  {stage : Stage} {out : Paging}

/-- Each batch holds the ids of a page, one page after the other. -/
theorem batches_hits (h : Course p script n r token stage out) {i : Nat} {batch : IdSet}
    (hbatch : out.batches[i]? = some batch) :
    ∃ hits, HitsAt script (n + i) hits ∧
      ∀ id, id ∈ batch.toList ↔ ∃ hit ∈ hits, p.idOf hit = id ∧ p.Takes hit := by
  induction h generalizing i with
  | lost _ => cases hbatch
  | stopped _ _ => cases hbatch
  | faulty _ _ _ => cases hbatch
  | complete _ _ _ => cases hbatch
  | refused _ _ => cases hbatch
  | @next n r token stage root fresh ids rest hoffer _ _ ih =>
      cases i with
      | zero =>
          cases hbatch
          obtain ⟨found, hits, hpage, hids⟩ := readPage_hits hoffer.ids_eq
          refine ⟨hits, ⟨root, found, hoffer.brings, hpage⟩, fun id => ?_⟩
          rw [IdSet.mem_ofList, hids]
      | succ i =>
          have hlater := ih hbatch
          rwa [Nat.add_right_comm] at hlater

/-- The page that completes the paging is in order, and none of its hits is taken. -/
theorem last_hits (h : Course p script n r token stage out) (hcomplete : out.ending = .complete) :
    ∃ hits, HitsAt script (n + out.batches.length) hits ∧ ∀ hit ∈ hits, ¬p.Takes hit := by
  induction h with
  | lost _ => cases hcomplete
  | stopped _ _ => cases hcomplete
  | faulty _ _ _ => cases hcomplete
  | @complete n r token stage root hbrings _ hids =>
      obtain ⟨found, hits, hpage, hmem⟩ := readPage_hits hids
      refine ⟨hits, ⟨root, found, hbrings, hpage⟩, fun hit hhit htakes => ?_⟩
      have hnone : p.idOf hit ∈ [] := (hmem _).mpr ⟨hit, hhit, rfl, htakes⟩
      cases hnone
  | refused _ _ => cases hcomplete
  | next _ _ _ ih =>
      have hlater := ih hcomplete
      rwa [Nat.add_right_comm, Nat.add_assoc] at hlater

end Course

namespace Exporter

variable {x : Exporter} {supply : Supply}

/-- What an uncancelled run without an error ends with is a page that completes the paging. -/
theorem paging_complete (hlive : (x.run supply).exporter.cancelled = false)
    (herror : (x.run supply).exporter.error = none) : (x.paging supply).ending = .complete := by
  have hcourse := x.paging_course supply
  cases hending : (x.paging supply).ending with
  | complete => rfl
  | stopped =>
      have hset : flagAfter supply.answers 0 x.cancelled (x.paging supply).events = true :=
        hcourse.flag_eq.trans (hcourse.cancelled_of_stopped hending)
      rw [← flagAfter_run, x.run_events, flagAfter_append, hset, flagAfter_true] at hlive
      cases hlive
  | failed f =>
      have hkept : (x.run supply).exporter.error = some f := by
        rw [x.run_eq]
        simp only [paged, errorAfter, hending]
      rw [herror] at hkept
      cases hkept

/-- The job of an uncancelled run without an error is a success if the cursor is given up in
order. -/
theorem job_succeeds (hlive : (x.run supply).exporter.cancelled = false)
    (herror : (x.run supply).exporter.error = none) (hfault : (x.clearing supply).fault = none) :
    (job x supply none).ending = .exit 0 := by
  have hmarked : acceptedItems (x.closingAttempts supply) = [.endOfStream] := by
    rcases closing_ends hfault with hmark | ⟨-, hset⟩
    · exact hmark
    · rw [x.run_eq] at hlive
      exact absurd (hset.symm.trans hlive) (by decide)
  have hmem : Item.endOfStream ∈ published (x.run supply).events := by
    rw [x.run_published, hmarked]
    exact List.mem_append_right _ List.mem_cons_self
  rw [job_ending, if_pos hmem, herror]
  rfl

end Exporter

/-- An uncancelled run without an error has received pages in order only, and the ids of all their
hits are published. The last of them has no hits exactly if each page with hits has one with an id:
a page that has hits and no id ends the run although the engine may have more. -/
theorem run_exhausts_pages_iff (x : Exporter) (supply : Supply)
    (hlive : (x.run supply).exporter.cancelled = false)
    (herror : (x.run supply).exporter.error = none) :
    ∃ last, (posts (x.run supply).events).length = last + 1 ∧
      (∀ i ≤ last, ∃ hits, HitsAt supply.answers i hits) ∧
      (∀ i ≤ last, ∀ hits, HitsAt supply.answers i hits → ∀ hit ∈ hits, x.plan.Takes hit →
        ∃ batch ∈ publishedBatches (x.run supply).events, x.plan.idOf hit ∈ batch.toList) ∧
      (HitsAt supply.answers last [] ↔
        ∀ i ≤ last, ∀ hits, HitsAt supply.answers i hits → hits ≠ [] →
          ∃ hit ∈ hits, x.plan.Takes hit) ∧
      (ClearedRegularly supply.answers (x.run supply).events →
        (job x supply none).ending = .exit 0) := by
  have hcourse := x.paging_course supply
  have hbatches (i : Nat) (hi : i < (x.paging supply).batches.length) :
      ∃ batch ∈ (x.paging supply).batches, ∃ hits, HitsAt supply.answers i hits ∧
        ∀ id, id ∈ batch.toList ↔ ∃ hit ∈ hits, x.plan.idOf hit = id ∧ x.plan.Takes hit := by
    have hbatch := List.getElem?_eq_getElem hi
    obtain ⟨hits, hhits, hids⟩ := hcourse.batches_hits hbatch
    rw [Nat.zero_add] at hhits
    exact ⟨_, List.mem_of_getElem? hbatch, hits, hhits, hids⟩
  obtain ⟨lastHits, hlast, hskipped⟩ :=
    hcourse.last_hits (Exporter.paging_complete hlive herror)
  rw [Nat.zero_add] at hlast
  refine ⟨(x.paging supply).batches.length, ?_, ?_, ?_, ?_, ?_⟩
  · rw [Exporter.posts_run, hcourse.requests_length]
  · intro i hi
    rcases Nat.lt_or_eq_of_le hi with hlt | rfl
    · obtain ⟨_, -, hits, hhits, -⟩ := hbatches i hlt
      exact ⟨hits, hhits⟩
    · exact ⟨lastHits, hlast⟩
  · intro i hi hits hhits hit hmem htakes
    rw [Exporter.publishedBatches_run]
    rcases Nat.lt_or_eq_of_le hi with hlt | rfl
    · obtain ⟨batch, hbatch, found, hfound, hids⟩ := hbatches i hlt
      cases hhits.unique hfound
      exact ⟨batch, hbatch, (hids _).mpr ⟨hit, hmem, rfl, htakes⟩⟩
    · cases hhits.unique hlast
      exact absurd htakes (hskipped hit hmem)
  · constructor
    · intro hempty i hi hits hhits hne
      rcases Nat.lt_or_eq_of_le hi with hlt | rfl
      · obtain ⟨batch, hbatch, found, hfound, hids⟩ := hbatches i hlt
        cases hhits.unique hfound
        obtain ⟨id, hid⟩ := List.exists_mem_of_ne_nil _ (hcourse.batches_filled batch hbatch).1
        obtain ⟨hit, hmem, -, htakes⟩ := (hids id).mp hid
        exact ⟨hit, hmem, htakes⟩
      · exact absurd (hhits.unique hempty) hne
    · intro htaken
      cases lastHits with
      | nil => exact hlast
      | cons first rest =>
          obtain ⟨hit, hmem, htakes⟩ :=
            htaken _ (Nat.le_refl _) _ hlast (List.cons_ne_nil first rest)
          exact absurd htakes (hskipped hit hmem)
  · intro hcleared
    exact Exporter.job_succeeds hlive herror (clearedRegularly_iff_fault.mp hcleared)

/-- An uncancelled run without an error that reads two pages and publishes the ids of the first. -/
theorem sampleSupply_exhausted :
    (sampleExporter.run sampleSupply).exporter.cancelled = false ∧
      (sampleExporter.run sampleSupply).exporter.error = none ∧
      ∃ last, (posts (sampleExporter.run sampleSupply).events).length = last + 1 ∧
        ∀ i ≤ last, ∀ hits, HitsAt sampleSupply.answers i hits → ∀ hit ∈ hits,
          sampleExporter.plan.Takes hit →
            ∃ batch ∈ publishedBatches (sampleExporter.run sampleSupply).events,
              sampleExporter.plan.idOf hit ∈ batch.toList := by
  have hlive : (sampleExporter.run sampleSupply).exporter.cancelled = false := by decide +kernel
  have herror : (sampleExporter.run sampleSupply).exporter.error = none := by decide +kernel
  obtain ⟨last, hposts, -, hpublished, -⟩ :=
    run_exhausts_pages_iff sampleExporter sampleSupply hlive herror
  exact ⟨hlive, herror, last, hposts, hpublished⟩

def hitRoot (token id : String) : Json :=
  .object [("_scroll_id", .string token),
    ("hits", .object [("hits", .array [.object [("_id", .string id)]])])]

def hitPage (token id : String) : Answer :=
  sampleAnswer ("\x7b\"_scroll_id\":\"" ++ token ++ "\",\"hits\":\x7b\"hits\":[\x7b\"_id\":\"" ++ id
    ++ "\"\x7d]\x7d\x7d")

/-- The answers to a run: a page whose only hit has a blank id, another page, and one without
hits. -/
def skippedSupply : Supply :=
  ⟨[hitPage "s" " ", hitPage "t" "a", emptyPage, sampleAnswer ""], [], .start⟩

/-- A page whose only hit is skipped ends a run, and the page behind it is lost without an error. -/
theorem run_ended_by_skipped_hit :
    (sampleExporter.run skippedSupply).exporter.cancelled = false ∧
      (sampleExporter.run skippedSupply).exporter.error = none ∧
      (job sampleExporter skippedSupply none).ending = .exit 0 ∧
      (posts (sampleExporter.run skippedSupply).events).length = 1 ∧
      ¬HitsAt skippedSupply.answers 0 [] ∧
      publishedBatches (sampleExporter.run skippedSupply).events = [] ∧
      ∃ hits, HitsAt skippedSupply.answers 1 hits ∧
        ∃ hit ∈ hits, sampleExporter.plan.idOf hit = ("a" : Text) := by
  have hfetch : (sampleExporter.plan.openRequest.fetch
      (outcomeAt skippedSupply.answers 0)).toOption = some (hitRoot "s" " ") := by decide +kernel
  have hfetch' : (sampleExporter.plan.openRequest.fetch
      (outcomeAt skippedSupply.answers 1)).toOption = some (hitRoot "t" "a") := by decide +kernel
  have hfirst : HitsAt skippedSupply.answers 0 [.object [("_id", .string " ")]] :=
    ⟨_, "s", Http.Request.brings_of_toOption hfetch, rfl, rfl, rfl⟩
  have hsecond : HitsAt skippedSupply.answers 1 [.object [("_id", .string "a")]] :=
    ⟨_, "t", Http.Request.brings_of_toOption hfetch', rfl, rfl, rfl⟩
  refine ⟨by decide +kernel, by decide +kernel, by decide +kernel, by decide +kernel, ?_,
    by decide +kernel, _, hsecond, _, List.mem_singleton_self _, by decide +kernel⟩
  intro hempty
  cases hfirst.unique hempty

end Export

end SearchBridge
