import SearchBridge.Export.Publish
/-!
What the attempts of a publication are. An item is offered again and again until the queue accepts
it or the publication is cancelled, so an item that is accepted is accepted once, by the last
attempt. A publication that nothing cancels is accepted at last, and one that is given up was
cancelled before it or while the queue was full.
-/

namespace SearchBridge

namespace Export

variable {α : Type} {item : α} {timeout : Number} {flag : Option Bool} {actions : List PutAction}

def NoneCancels (actions : List PutAction) : Prop := ∀ a ∈ actions, a.cancels = false

theorem NoneCancels.of_cons {a : PutAction} (h : NoneCancels (a :: actions)) :
    a.cancels = false ∧ NoneCancels actions :=
  ⟨h a List.mem_cons_self, fun b hb => h b (List.mem_cons_of_mem a hb)⟩

theorem NoneCancels.concat (h : NoneCancels actions) (accepts : Bool) :
    NoneCancels (actions ++ [⟨false, accepts⟩]) := by
  intro a ha
  rcases List.mem_append.mp ha with hbefore | hlast
  · exact h a hbefore
  · rw [List.mem_singleton.mp hlast]

@[simp] theorem publish_cancelled :
    publish item timeout (some true) actions = ⟨false, [], actions, some true⟩ := by
  cases actions <;> simp [publish]

@[simp] theorem publish_nil :
    publish item timeout (some false) [] =
      ⟨true, [⟨item, timeout, ⟨false, true⟩⟩], [], some false⟩ := by
  simp [publish]

/-- One attempt: the queue accepts the item, or the rest of the publication follows. -/
theorem publish_cons (a : PutAction) :
    publish item timeout (some false) (a :: actions) =
      if a.accepts then ⟨true, [⟨item, timeout, a⟩], actions, some a.cancels⟩
      else
        let p := publish item timeout (some a.cancels) actions
        { p with attempts := ⟨item, timeout, a⟩ :: p.attempts } := by
  rw [publish.eq_def]
  simp

/-- The cancellation flag once some attempts are made. Without a flag no attempt cancels. -/
def flagBehind (flag : Option Bool) (made : List (Attempt α)) : Option Bool :=
  flag.map (· || made.any (·.action.cancels))

@[simp] theorem flagBehind_nil : flagBehind flag ([] : List (Attempt α)) = flag := by
  cases flag <;> simp [flagBehind]

theorem flagBehind_cons (a : Attempt α) (made : List (Attempt α)) :
    flagBehind flag (a :: made) = flagBehind (flag.map (· || a.action.cancels)) made := by
  cases flag <;> simp [flagBehind, Bool.or_assoc]

/-- Every attempt is made for the item and waits for as long as it was told to. -/
theorem attempt_of_publish {a : Attempt α}
    (h : a ∈ (publish item timeout flag actions).attempts) :
    a.item = item ∧ a.timeout = timeout := by
  fun_induction publish item timeout flag actions with
  | case1 => cases h
  | case2 =>
      rw [List.mem_singleton.mp h]
      exact ⟨rfl, rfl⟩
  | case3 =>
      rw [List.mem_singleton.mp h]
      exact ⟨rfl, rfl⟩
  | case4 _ _ _ _ _ _ _ ih =>
      rcases List.mem_cons.mp h with rfl | later
      · exact ⟨rfl, rfl⟩
      · exact ih later

/-- The attempts meet the actions in order, and acceptance past the end of them. -/
theorem publish_meets :
    (publish item timeout flag actions).attempts.map (·.action) <+: actions ++ [⟨false, true⟩] ∧
      (publish item timeout flag actions).rest =
        actions.drop (publish item timeout flag actions).attempts.length := by
  fun_induction publish item timeout flag actions with
  | case1 => exact ⟨List.nil_prefix, rfl⟩
  | case2 => exact ⟨List.prefix_rfl, rfl⟩
  | case3 => exact ⟨List.cons_prefix_cons.mpr ⟨rfl, List.nil_prefix⟩, rfl⟩
  | case4 _ _ _ _ _ _ _ ih => exact ⟨List.cons_prefix_cons.mpr ⟨rfl, ih.1⟩, ih.2⟩

/-- How a publication ends: the last attempt is accepted and the ones before it met a full queue,
or all of them did and the publication is cancelled. -/
theorem publish_ends (item : α) (timeout : Number) (actions : List PutAction)
    (flag : Option Bool) :
    let p := publish item timeout flag actions
    (p.accepted = true ∧ ∃ full last, p.attempts = full ++ [last] ∧ last.item = item ∧
        last.action.accepts = true ∧ ∀ a ∈ full, a.action.accepts = false) ∨
      (p.accepted = false ∧ p.cancelled = some true ∧
        ∀ a ∈ p.attempts, a.action.accepts = false) := by
  intro p
  fun_induction publish item timeout flag actions with
  | case1 => exact Or.inr ⟨rfl, rfl, fun a ha => by cases ha⟩
  | case2 => exact Or.inl ⟨rfl, [], _, rfl, rfl, rfl, by simp⟩
  | case3 _ _ _ _ _ haccepts => exact Or.inl ⟨rfl, [], _, rfl, rfl, haccepts, by simp⟩
  | case4 _ _ a _ _ hfull _ ih =>
      have hhere : a.accepts = false := Bool.eq_false_iff.mpr hfull
      rcases ih with ⟨haccepted, full, last, hsplit, hitem, hlast, hothers⟩ |
        ⟨hrefused, hset, hothers⟩
      · refine Or.inl ⟨haccepted, ⟨item, timeout, a⟩ :: full, last, ?_, hitem, hlast, ?_⟩
        · exact congrArg (_ :: ·) hsplit
        · exact List.forall_mem_cons.mpr ⟨hhere, hothers⟩
      · exact Or.inr ⟨hrefused, hset, List.forall_mem_cons.mpr ⟨hhere, hothers⟩⟩

/-- A publication that is accepted is so by its last attempt. -/
theorem attempts_of_accepted (h : (publish item timeout flag actions).accepted = true) :
    ∃ full last, (publish item timeout flag actions).attempts = full ++ [last] ∧
      last.item = item ∧ last.action.accepts = true := by
  rcases publish_ends item timeout actions flag with
    ⟨-, full, last, hsplit, hitem, hlast, -⟩ | ⟨hrefused, -⟩
  · exact ⟨full, last, hsplit, hitem, hlast⟩
  · rw [h] at hrefused
    cases hrefused

/-- A publication leaves the cancellation flag as it was, unless one of its attempts sets it. -/
theorem publish_flag :
    (publish item timeout flag actions).cancelled =
      flagBehind flag (publish item timeout flag actions).attempts := by
  fun_induction publish item timeout flag actions with
  | case1 => rfl
  | case2 => simp [flagBehind]
  | case3 => rw [flagBehind_cons, flagBehind_nil]
  | case4 _ _ _ _ _ _ _ ih =>
      rw [flagBehind_cons]
      exact ih

/-- Nothing is attempted any more once the cancellation flag is set. -/
theorem publish_flagged {before after : List (Attempt α)}
    (h : (publish item timeout flag actions).attempts = before ++ after)
    (hflag : flagBehind flag before = some true) : after = [] := by
  induction actions generalizing flag before with
  | nil =>
      rw [publish] at h
      split at h
      · exact (List.append_eq_nil_iff.mp h.symm).2
      · next hlive =>
        rcases List.singleton_eq_append_iff.mp h with ⟨rfl, -⟩ | ⟨-, hafter⟩
        · exact absurd (flagBehind_nil.symm.trans hflag) hlive
        · exact hafter
  | cons action rest ih =>
      rw [publish] at h
      split at h
      · exact (List.append_eq_nil_iff.mp h.symm).2
      · next hlive =>
        cases before with
        | nil => exact absurd (flagBehind_nil.symm.trans hflag) hlive
        | cons first before =>
            dsimp only at h
            split at h
            · obtain ⟨-, hrest⟩ := List.cons.inj h
              exact (List.append_eq_nil_iff.mp hrest.symm).2
            · obtain ⟨rfl, hrest⟩ := List.cons.inj h
              rw [flagBehind_cons] at hflag
              exact ih hrest hflag

theorem acceptedItems_append (l₁ l₂ : List (Attempt α)) :
    acceptedItems (l₁ ++ l₂) = acceptedItems l₁ ++ acceptedItems l₂ := by
  simp [acceptedItems]

/-- The queue gets an item once, or not at all. -/
theorem acceptedItems_publish :
    acceptedItems (publish item timeout flag actions).attempts =
      if (publish item timeout flag actions).accepted then [item] else [] := by
  rcases publish_ends item timeout actions flag with
    ⟨hacc, full, last, hsplit, hitem, hlast, hfull⟩ | ⟨hacc, _, hfull⟩
  · have hnone : full.filter (·.action.accepts) = [] := by
      rw [List.filter_eq_nil_iff]
      intro a ha
      simp [hfull a ha]
    rw [hacc, hsplit]
    simp [acceptedItems, hnone, hlast, hitem]
  · have hnone :
        (publish item timeout flag actions).attempts.filter (·.action.accepts) = [] := by
      rw [List.filter_eq_nil_iff]
      intro a ha
      simp [hfull a ha]
    simp [acceptedItems, hnone, hacc]

/-- A publication that nothing cancels is accepted. However often the queue was full before, the
attempt that is accepted is the same. -/
theorem publish_uncancelled (item : α) (timeout : Number) (h : NoneCancels actions) :
    (publish item timeout (some false) actions).accepted = true ∧
      (publish item timeout (some false) actions).cancelled = some false ∧
      NoneCancels (publish item timeout (some false) actions).rest ∧
      (publish item timeout (some false) actions).attempts.filter (·.action.accepts) =
        [⟨item, timeout, ⟨false, true⟩⟩] := by
  induction actions with
  | nil => simp [NoneCancels]
  | cons action rest ih =>
      obtain ⟨hfirst, hrest⟩ := h.of_cons
      obtain ⟨cancels, accepts⟩ := action
      subst hfirst
      rw [publish_cons]
      cases accepts with
      | true => exact ⟨rfl, rfl, hrest, rfl⟩
      | false => simpa using ih hrest

/-- An action cancels while the queue is full, and no action before it accepts. -/
inductive GivesUp : List PutAction → Prop where
  | here {a : PutAction} {rest : List PutAction} (hfull : a.accepts = false)
      (hcancels : a.cancels = true) : GivesUp (a :: rest)
  | later {a : PutAction} {rest : List PutAction} (hfull : a.accepts = false)
      (h : GivesUp rest) : GivesUp (a :: rest)

/-- A publication is given up exactly if the flag is set before it, or by an attempt on a full
queue. -/
theorem publish_refused_iff :
    (publish item timeout flag actions).accepted = false ↔
      flag = some true ∨ flag = some false ∧ GivesUp actions := by
  fun_induction publish item timeout flag actions with
  | case1 => exact iff_of_true rfl (Or.inl rfl)
  | case2 _ hlive =>
      refine iff_of_false nofun ?_
      rintro (hset | ⟨-, hgives⟩)
      · exact hlive hset
      · cases hgives
  | case3 _ hlive a _ _ haccepts =>
      refine iff_of_false nofun ?_
      rintro (hset | ⟨-, hgives⟩)
      · exact hlive hset
      · cases hgives with
        | here hfull _ => exact Bool.false_ne_true (hfull.symm.trans haccepts)
        | later hfull _ => exact Bool.false_ne_true (hfull.symm.trans haccepts)
  | case4 flag hlive a rest flag' hrefused p ih =>
      have hfull : a.accepts = false := Bool.eq_false_iff.mpr hrefused
      change p.accepted = false ↔ _
      rw [ih]
      -- Without a flag the attempt changes nothing. With one, it is unset before the attempt.
      cases flag with
      | none => simp [flag']
      | some set =>
          obtain rfl : set = false := Bool.eq_false_iff.mpr fun hset => hlive (congrArg some hset)
          simp only [flag', Option.map_some, Bool.false_or, Option.some.injEq, Bool.false_eq_true,
            false_or, true_and]
          constructor
          · rintro (hcancels | ⟨-, hgives⟩)
            · exact .here hfull hcancels
            · exact .later hfull hgives
          · intro hgives
            cases hgives with
            | here _ hcancels => exact Or.inl hcancels
            | later _ hgives =>
                cases a.cancels with
                | true => exact Or.inl rfl
                | false => exact Or.inr ⟨rfl, hgives⟩

/-- What a publication keeps to, whatever its attempts meet. -/
structure Publication.Keeps (p : Publication α) (item : α) (timeout : Number) (flag : Option Bool)
    (actions : List PutAction) : Prop where
  /-- Every attempt is made for the item itself and waits for as long as it was told to. -/
  offered : ∀ a ∈ p.attempts, a.item = item ∧ a.timeout = timeout
  /-- The attempts meet the actions in order, and acceptance past the end of them. -/
  met : p.attempts.map (·.action) <+: actions ++ [⟨false, true⟩]
  left : p.rest = actions.drop p.attempts.length
  /-- It reports acceptance exactly if one attempt was accepted, which is the last one. -/
  accepted_iff : p.accepted = true ↔ ∃ full last, p.attempts = full ++ [last] ∧
    last.action.accepts = true ∧ ∀ a ∈ full, a.action.accepts = false
  /-- It reports that it gave up exactly if no attempt was accepted. -/
  refused_iff : p.accepted = false ↔ ∀ a ∈ p.attempts, a.action.accepts = false
  /-- The queue gets the item once, or not at all. -/
  items : acceptedItems p.attempts = if p.accepted then [item] else []
  /-- Only a queue that is full makes it try again. -/
  retried : ∀ full last, p.attempts = full ++ [last] → ∀ a ∈ full, a.action.accepts = false
  /-- It gives up only if it can be cancelled, and was so before it or while the queue was full. -/
  cancelled_iff : p.accepted = false ↔ flag = some true ∨ flag = some false ∧ GivesUp actions
  /-- No attempt is made once the flag is set. -/
  heeds : ∀ before a after, p.attempts = before ++ a :: after → flagBehind flag before ≠ some true

/-- A publication offers its item until the queue accepts it, which it does once and as the last
thing that happens, or until it is cancelled. -/
theorem publish_accepts_once (item : α) (timeout : Number) (flag : Option Bool)
    (actions : List PutAction) :
    (publish item timeout flag actions).Keeps item timeout flag actions := by
  have hends := publish_ends item timeout actions flag
  constructor
  case offered => exact fun a ha => attempt_of_publish ha
  case met => exact publish_meets.1
  case left => exact publish_meets.2
  case accepted_iff =>
    constructor
    · intro haccepted
      rcases hends with ⟨-, full, last, hsplit, -, hlast, hfull⟩ | ⟨hrefused, -⟩
      · exact ⟨full, last, hsplit, hlast, hfull⟩
      · exact absurd (haccepted.symm.trans hrefused) (by decide)
    · rintro ⟨full, last, hsplit, hlast, -⟩
      rcases hends with ⟨haccepted, -⟩ | ⟨-, -, hfull⟩
      · exact haccepted
      · have hnone := hfull last (hsplit ▸ List.mem_append_right full List.mem_cons_self)
        exact absurd (hlast.symm.trans hnone) (by decide)
  case refused_iff =>
    constructor
    · intro hrefused
      rcases hends with ⟨haccepted, -⟩ | ⟨-, -, hfull⟩
      · exact absurd (haccepted.symm.trans hrefused) (by decide)
      · exact hfull
    · intro hfull
      rcases hends with ⟨-, full, last, hsplit, -, hlast, -⟩ | ⟨hrefused, -⟩
      · have hnone := hfull last (hsplit ▸ List.mem_append_right full List.mem_cons_self)
        exact absurd (hlast.symm.trans hnone) (by decide)
      · exact hrefused
  case items => exact acceptedItems_publish
  case retried =>
    intro full last hattempts a ha
    rcases hends with ⟨-, others, final, hsplit, -, -, hothers⟩ | ⟨-, -, hfull⟩
    · obtain ⟨rfl, -⟩ := List.append_inj' (hattempts.symm.trans hsplit) rfl
      exact hothers a ha
    · exact hfull a (hattempts ▸ List.mem_append_left _ ha)
  case cancelled_iff => exact publish_refused_iff
  case heeds =>
    intro before a after hsplit hflag
    exact absurd (publish_flagged hsplit hflag) (List.cons_ne_nil a after)

end Export

end SearchBridge
