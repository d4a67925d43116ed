import SearchBridge.Export.Job
/-!
What is known of settings that were read: their address is a connection, and pages and the queue
have room for something.
-/

namespace SearchBridge

theorem defaulted_integerFrom {least : Nat} {default i : Int} {v : Option Json}
    (h : defaulted (Coercion.integerFrom least) default v = .ok i) (hdefault : least ≤ default) :
    least ≤ i := by
  cases v with
  | none =>
      cases h
      exact hdefault
  | some v =>
      simp only [defaulted, Coercion.integerFrom, bind, Except.bind] at h
      split at h
      · cases h
      · split at h
        · cases h
        · rename_i hleast
          cases h
          exact Int.not_lt.mp hleast

theorem required_connection {v : Option Json} {s : String}
    (h : required Coercion.connection v = .ok s) : ∃ c, Connection.parse s = .ok c := by
  cases v with
  | none => cases h
  | some v =>
      simp only [required, Coercion.connection, bind, Except.bind] at h
      split at h
      · cases h
      · split at h
        · rename_i c hparse
          cases h
          exact ⟨c, hparse⟩
        · cases h

namespace Settings

theorem read_ok {given : List (String × Json)} {environment : List (String × String)}
    {s : Settings} (h : read given environment = .ok s) :
    (∃ c, Connection.parse s.url = .ok c) ∧ 1 ≤ s.batchSize ∧ 1 ≤ s.queueSize := by
  unfold read at h
  dsimp only at h
  split at h
  · rename_i hurl _ _ hbatch hqueue _ _ _
    cases h
    exact ⟨required_connection hurl, defaulted_integerFrom hbatch (by decide),
      defaulted_integerFrom hqueue (by decide)⟩
  · cases h

/-- The client that settings describe keeps the connection that their address reads as. -/
theorem client_of_parse {s : Settings} {c : Connection} (h : Connection.parse s.url = .ok c) :
    s.client = .ok ⟨c, s.keepAlive, .ofString s.continuation, .real s.enqueueTimeout⟩ := by
  rw [client, h]
  rfl

/-- Settings that were read describe a fresh exporter, whose hits have their id in `_id`. -/
theorem exporter_of_read {given : List (String × Json)} {environment : List (String × String)}
    {s : Settings} (h : read given environment = .ok s) :
    ∃ x : Export.Exporter, s.exporter = .ok x ∧ x.plan.idField = .string idField ∧
      x.cancelled = false ∧ x.error = none := by
  obtain ⟨⟨c, hparse⟩, hbatch, -⟩ := read_ok h
  have hsize : (Export.PageSize.number (.int s.batchSize)).isTooSmall = false := by
    rw [Export.PageSize.isTooSmall_int]
    simp only [decide_eq_false_iff_not]
    omega
  have hexporter : ∀ k : Client, s.client = .ok k → s.exporter =
      .ok ⟨k.plan (.number (.int s.batchSize)), false, false, false, 0, 0, none⟩ := by
    intro k hk
    rw [exporter, hk]
    simp only [bind, Except.bind, Export.Exporter.create, Client.plan, hsize, Bool.false_eq_true,
      if_false]
  exact ⟨_, hexporter _ (client_of_parse hparse), rfl, rfl, rfl⟩

end Settings

end SearchBridge
