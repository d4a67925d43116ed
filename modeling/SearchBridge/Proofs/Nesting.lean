import SearchBridge.Json.Reader
import SearchBridge.Proofs.Bindings
/-!
How deep containers may stand in one another makes no difference to what is read of a text, unless
one stands too deep. A text that is read within some depth is read within any other one, with the
same value, or it is too deep for that one. It is too deep if the value does not fit.
-/

namespace SearchBridge

namespace Json

/-- A reading and another one with less room, which is the same unless its room runs out. -/
def Roomier {α : Type} (more less : Except ReadFault α) : Prop :=
  (∃ c, less = .error (.nested c)) ∨ more = less

namespace Roomier

variable {α β : Type}

theorem refl (e : Except ReadFault α) : Roomier e e := Or.inr rfl

theorem nested (e : Except ReadFault α) (c : Container) : Roomier e (.error (.nested c)) :=
  Or.inl ⟨c, rfl⟩

theorem map {more less : Except ReadFault α} (h : Roomier more less) (f : α → β) :
    Roomier (more.map f) (less.map f) := by
  rcases h with ⟨c, rfl⟩ | rfl
  · exact nested _ c
  · exact refl _

/-- What goes on from a reading may use the room, too. -/
theorem bind {more less : Except ReadFault α} {f g : α → Except ReadFault β}
    (h : Roomier more less) (hrest : ∀ a, Roomier (f a) (g a)) :
    Roomier (more >>= f) (less >>= g) := by
  rcases h with ⟨c, rfl⟩ | rfl
  · exact nested _ c
  · cases more with
    | error fault => exact refl _
    | ok a => exact hrest a

end Roomier

/-- What starts with no quote and opens no container is a word. -/
theorem readValue_word (fuel depth : Nat) {ps : Text} (hquote : ¬∃ r, ps = .char '"' :: r)
    (hbracket : ¬∃ r, ps = .char '[' :: r) (hbrace : ¬∃ r, ps = .char '{' :: r) :
    readValue (fuel + 1) depth ps = demand (readWord ps) := by
  rw [readValue]
  · exact fun r h => hquote ⟨r, h⟩
  · exact fun r _ h => hbracket ⟨r, h⟩
  · exact fun _ r _ h => hbracket ⟨r, h⟩
  · exact fun r _ h => hbrace ⟨r, h⟩
  · exact fun _ r _ h => hbrace ⟨r, h⟩

theorem readValue_roomier {fuel depth room : Nat} (hroom : depth ≤ room)
    (hitems : ∀ depth room, depth ≤ room → ∀ ps,
      Roomier (readItems fuel room ps) (readItems fuel depth ps))
    (hmembers : ∀ depth room, depth ≤ room → ∀ ps,
      Roomier (readMembers fuel room ps) (readMembers fuel depth ps)) (ps : Text) :
    Roomier (readValue (fuel + 1) room ps) (readValue (fuel + 1) depth ps) := by
  by_cases hquote : ∃ r, ps = .char '"' :: r
  · obtain ⟨r, rfl⟩ := hquote
    rw [readValue, readValue]
    exact .refl _
  by_cases hbracket : ∃ r, ps = .char '[' :: r
  · obtain ⟨r, rfl⟩ := hbracket
    cases depth with
    | zero =>
        rw [readValue.eq_3]
        exact .nested _ _
    | succ depth =>
        obtain ⟨more, rfl⟩ := Nat.exists_eq_add_of_lt hroom
        rw [readValue, readValue]
        split
        · exact .refl _
        · exact (hitems _ _ (Nat.le_add_right depth more) _).map _
  by_cases hbrace : ∃ r, ps = .char '{' :: r
  · obtain ⟨r, rfl⟩ := hbrace
    cases depth with
    | zero =>
        rw [readValue.eq_5]
        exact .nested _ _
    | succ depth =>
        obtain ⟨more, rfl⟩ := Nat.exists_eq_add_of_lt hroom
        rw [readValue, readValue]
        split
        · exact .refl _
        · exact (hmembers _ _ (Nat.le_add_right depth more) _).map _
  rw [readValue_word fuel room hquote hbracket hbrace,
    readValue_word fuel depth hquote hbracket hbrace]
  exact .refl _

theorem read_roomier (fuel : Nat) :
    (∀ depth room, depth ≤ room → ∀ ps,
        Roomier (readValue fuel room ps) (readValue fuel depth ps)) ∧
      (∀ depth room, depth ≤ room → ∀ ps,
        Roomier (readItems fuel room ps) (readItems fuel depth ps)) ∧
      ∀ depth room, depth ≤ room → ∀ ps,
        Roomier (readMembers fuel room ps) (readMembers fuel depth ps) := by
  induction fuel with
  | zero => exact ⟨fun _ _ _ _ => .refl _, fun _ _ _ _ => .refl _, fun _ _ _ _ => .refl _⟩
  | succ fuel ih =>
      obtain ⟨hvalue, hitems, hmembers⟩ := ih
      refine ⟨?_, ?_, ?_⟩
      · intro depth room hroom ps
        exact readValue_roomier hroom hitems hmembers ps
      · intro depth room hroom ps
        simp only [readItems]
        refine (hvalue depth room hroom ps).bind fun read => ?_
        obtain ⟨v, r⟩ := read
        dsimp only
        split
        · exact .refl _
        · exact (hitems depth room hroom _).bind fun _ => .refl _
        · exact .refl _
      · intro depth room hroom ps
        simp only [readMembers]
        -- the name and the colon are read alike, whatever the room is
        refine (Roomier.refl _).bind fun name => (Roomier.refl _).bind fun r =>
          (hvalue depth room hroom r).bind fun read => ?_
        obtain ⟨v, r⟩ := read
        dsimp only
        split
        · exact .refl _
        · exact (hmembers depth room hroom _).bind fun _ => .refl _
        · exact .refl _

theorem readWithin_roomier {depth room : Nat} (hroom : depth ≤ room) (ps : Text) :
    Roomier (readWithin room ps) (readWithin depth ps) :=
  ((read_roomier _).1 depth room hroom _).bind fun _ => .refl _

/-- A text that is read within some depth is read within any other one, unless it is too deep. -/
theorem readWithin_agree {depth : Nat} {ps : Text} {v : Json} (h : readWithin depth ps = .ok v)
    (depth' : Nat) :
    readWithin depth' ps = .ok v ∨ ∃ c, readWithin depth' ps = .error (.nested c) := by
  rcases Nat.le_total depth depth' with hle | hle
  · rcases readWithin_roomier hle ps with ⟨c, hc⟩ | hsame
    · rw [h] at hc
      cases hc
    · exact Or.inl (hsame.trans h)
  · rcases readWithin_roomier hle ps with hnested | hsame
    · exact Or.inr hnested
    · exact Or.inl (hsame.symm.trans h)

/-! ### What fits in a depth -/

/-- No more than so many containers stand in one another in a value. -/
inductive Fits : Nat → Json → Prop where
  | null {depth : Nat} : Fits depth .null
  | bool {depth : Nat} (b : Bool) : Fits depth (.bool b)
  | number {depth : Nat} (n : Number) : Fits depth (.number n)
  | string {depth : Nat} (s : Text) : Fits depth (.string s)
  | array {depth : Nat} {items : List Json} (h : ∀ v ∈ items, Fits depth v) :
      Fits (depth + 1) (.array items)
  | object {depth : Nat} {members : Ordered Text Json} (h : ∀ m ∈ members, Fits depth m.2) :
      Fits (depth + 1) (.object members)

theorem Fits.succ {depth : Nat} {v : Json} (h : Fits depth v) : Fits (depth + 1) v := by
  induction h with
  | null => exact .null
  | bool b => exact .bool b
  | number n => exact .number n
  | string s => exact .string s
  | array _ ih => exact .array ih
  | object _ ih => exact .object ih

/-- What stands in a container fits wherever the container does. -/
theorem Fits.item {depth : Nat} {items : List Json} (h : Fits depth (.array items)) :
    ∀ v ∈ items, Fits depth v := by
  cases h with
  | array hitems => exact fun v hv => (hitems v hv).succ

theorem Fits.member {depth : Nat} {members : Ordered Text Json}
    (h : Fits depth (.object members)) : ∀ m ∈ members, Fits depth m.2 := by
  cases h with
  | object hmembers => exact fun m hm => (hmembers m hm).succ

theorem demand_eq_ok {α : Type} {read : Option α} {a : α} (h : demand read = .ok a) :
    read = some a := by
  cases read with
  | none => cases h
  | some b =>
      cases h
      rfl

theorem bind_eq_ok {α β : Type} {read : Except ReadFault α} {f : α → Except ReadFault β} {b : β}
    (h : read >>= f = .ok b) : ∃ a, read = .ok a ∧ f a = .ok b := by
  cases read with
  | error fault => cases h
  | ok a => exact ⟨a, rfl, h⟩

theorem map_eq_ok {α β : Type} {read : Except ReadFault α} {f : α → β} {b : β}
    (h : read.map f = .ok b) : ∃ a, read = .ok a ∧ f a = b := by
  cases read with
  | error fault => cases h
  | ok a => exact ⟨a, rfl, Except.ok.inj h⟩

/-- A word holds nothing, so it fits in any depth. -/
theorem readWord_fits {ps rest : Text} {v : Json} (depth : Nat)
    (h : readWord ps = some (v, rest)) : Fits depth v := by
  unfold readWord at h
  split at h
  · cases h
    exact .null
  split at h
  · cases h
    exact .bool true
  split at h
  · cases h
    exact .bool false
  split at h
  · cases h
    exact .number _
  split at h
  · cases h
    exact .number _
  · obtain ⟨_, -, heq⟩ := Option.map_eq_some_iff.mp h
    cases heq
    exact .number _

theorem readValue_fits {fuel depth : Nat} {ps rest : Text} {v : Json}
    (hitems : ∀ depth ps vs rest, readItems fuel depth ps = .ok (vs, rest) →
      ∀ v ∈ vs, Fits depth v)
    (hmembers : ∀ depth ps ms rest, readMembers fuel depth ps = .ok (ms, rest) →
      ∀ m ∈ ms, Fits depth m.2)
    (h : readValue (fuel + 1) depth ps = .ok (v, rest)) : Fits depth v := by
  by_cases hquote : ∃ r, ps = .char '"' :: r
  · obtain ⟨r, rfl⟩ := hquote
    rw [readValue] at h
    obtain ⟨_, -, heq⟩ := Option.map_eq_some_iff.mp (demand_eq_ok h)
    cases heq
    exact .string _
  by_cases hbracket : ∃ r, ps = .char '[' :: r
  · obtain ⟨r, rfl⟩ := hbracket
    cases depth with
    | zero =>
        rw [readValue.eq_3] at h
        cases h
    | succ depth =>
        rw [readValue] at h
        split at h
        · cases h
          exact .array (by simp)
        · obtain ⟨⟨vs, rest'⟩, hread, heq⟩ := map_eq_ok h
          cases heq
          exact .array (hitems _ _ _ _ hread)
  by_cases hbrace : ∃ r, ps = .char '{' :: r
  · obtain ⟨r, rfl⟩ := hbrace
    cases depth with
    | zero =>
        rw [readValue.eq_5] at h
        cases h
    | succ depth =>
        rw [readValue] at h
        split at h
        · cases h
          exact .object (by simp)
        · obtain ⟨⟨ms, rest'⟩, hread, heq⟩ := map_eq_ok h
          cases heq
          exact .object fun m hm => hmembers _ _ _ _ hread m (Ordered.mem_of_mem_ofList hm)
  rw [readValue_word fuel depth hquote hbracket hbrace] at h
  exact readWord_fits depth (demand_eq_ok h)

/-- Values, items and members fit in the depth that they are read within. -/
theorem read_fits (fuel : Nat) :
    (∀ depth ps v rest, readValue fuel depth ps = .ok (v, rest) → Fits depth v) ∧
      (∀ depth ps vs rest, readItems fuel depth ps = .ok (vs, rest) → ∀ v ∈ vs, Fits depth v) ∧
      ∀ depth ps ms rest, readMembers fuel depth ps = .ok (ms, rest) →
        ∀ m ∈ ms, Fits depth m.2 := by
  induction fuel with
  | zero =>
      refine ⟨?_, ?_, ?_⟩
      · intro depth ps v rest h
        rw [readValue] at h
        cases h
      · intro depth ps vs rest h
        rw [readItems] at h
        cases h
      · intro depth ps ms rest h
        rw [readMembers] at h
        cases h
  | succ fuel ih =>
      obtain ⟨hvalue, hitems, hmembers⟩ := ih
      refine ⟨fun depth ps v rest => readValue_fits hitems hmembers, ?_, ?_⟩
      · intro depth ps vs rest h
        rw [readItems] at h
        obtain ⟨⟨v, r⟩, hv, h⟩ := bind_eq_ok h
        have hfirst := hvalue _ _ _ _ hv
        dsimp only at h
        split at h
        · cases h
          exact List.forall_mem_singleton.mpr hfirst
        · obtain ⟨⟨vs', rest'⟩, hmore, h⟩ := bind_eq_ok h
          cases h
          exact List.forall_mem_cons.mpr ⟨hfirst, hitems _ _ _ _ hmore⟩
        · cases h
      · intro depth ps ms rest h
        simp only [readMembers] at h
        obtain ⟨⟨n, r₁⟩, -, h⟩ := bind_eq_ok h
        obtain ⟨r₂, -, h⟩ := bind_eq_ok h
        obtain ⟨⟨v, r₃⟩, hv, h⟩ := bind_eq_ok h
        have hfirst := hvalue _ _ _ _ hv
        dsimp only at h
        split at h
        · cases h
          exact List.forall_mem_singleton.mpr hfirst
        · obtain ⟨⟨ms', rest'⟩, hmore, h⟩ := bind_eq_ok h
          cases h
          exact List.forall_mem_cons.mpr ⟨hfirst, hmembers _ _ _ _ hmore⟩
        · cases h

/-- The value of a text that does not fit in a depth is not read within it. -/
theorem readWithin_of_not_fits {depth : Nat} {ps : Text} {v : Json} (h : read? ps = some v)
    (hdeep : ¬Fits depth v) : ∃ c, readWithin depth ps = .error (.nested c) := by
  have hread : readWithin ps.length ps = .ok v := by
    unfold read? at h
    cases hwithin : readWithin ps.length ps with
    | error fault =>
        rw [hwithin] at h
        cases h
    | ok w =>
        rw [hwithin] at h
        cases h
        rfl
  refine (readWithin_agree hread depth).resolve_left fun hwithin => hdeep ?_
  obtain ⟨⟨w, rest⟩, hvalue, hend⟩ := bind_eq_ok hwithin
  dsimp only at hend
  split at hend
  · cases hend
    exact (read_fits _).1 _ _ _ _ hvalue
  · cases hend

/-- So many arrays in an array that is empty but for them. -/
def nest : Nat → Json
  | 0 => .array []
  | n + 1 => .array [nest n]

theorem not_fits_nest {depth n : Nat} (h : depth ≤ n) : ¬Fits depth (nest n) := by
  induction n generalizing depth with
  | zero =>
      rw [Nat.le_zero.mp h]
      rintro ⟨⟩
  | succ n ih =>
      intro hfits
      cases hfits with
      | array hitems => exact ih (by omega) (hitems _ List.mem_cons_self)

end Json

end SearchBridge
