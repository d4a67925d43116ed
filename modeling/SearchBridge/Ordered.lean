/-!
Bindings of names to values in insertion order: the members of an object, the fields of a document,
the counts of a facet. Binding a name again keeps its place.
-/

namespace SearchBridge

abbrev Ordered (κ α : Type) := List (κ × α)

namespace Ordered

variable {κ α : Type} [DecidableEq κ]

def find? (m : Ordered κ α) (name : κ) : Option α :=
  match m with
  | [] => none
  | (n, v) :: rest => if n = name then some v else find? rest name

/-- Changes the value of a name; a name that is not there yet comes last. -/
def alter (m : Ordered κ α) (name : κ) (f : Option α → α) : Ordered κ α :=
  match m with
  | [] => [(name, f none)]
  | (n, v) :: rest => if n = name then (n, f (some v)) :: rest else (n, v) :: alter rest name f

def put (m : Ordered κ α) (name : κ) (value : α) : Ordered κ α := m.alter name fun _ => value

/-- The bindings that are left when a list of them is made one after the other. -/
def ofList (bindings : List (κ × α)) : Ordered κ α :=
  bindings.foldl (fun m b => m.put b.1 b.2) []

def keys (m : Ordered κ α) : List κ := m.map (·.1)

def erase (m : Ordered κ α) (name : κ) : Ordered κ α := m.filter (·.1 ≠ name)

theorem mem_of_find? {m : Ordered κ α} {name : κ} {v : α} (h : m.find? name = some v) :
    (name, v) ∈ m := by
  induction m with
  | nil => cases h
  | cons b rest ih =>
      obtain ⟨n, w⟩ := b
      rw [find?] at h
      split at h
      · next hn =>
        cases h
        exact hn ▸ List.mem_cons_self
      · exact List.mem_cons_of_mem _ (ih h)

theorem find?_alter_self (m : Ordered κ α) (name : κ) (f : Option α → α) :
    (m.alter name f).find? name = some (f (m.find? name)) := by
  induction m with
  | nil => simp [alter, find?]
  | cons b rest ih =>
      obtain ⟨n, v⟩ := b
      by_cases h : n = name
      · simp [alter, find?, h]
      · simpa [alter, find?, h] using ih

theorem find?_alter_of_ne {m : Ordered κ α} {name other : κ} (f : Option α → α)
    (h : other ≠ name) : (m.alter name f).find? other = m.find? other := by
  induction m with
  | nil => simp [alter, find?, h.symm]
  | cons b rest ih =>
      obtain ⟨n, v⟩ := b
      by_cases hn : n = name
      · subst hn
        simp [alter, find?, h.symm]
      · by_cases ho : n = other
        · subst ho
          simp [alter, find?, h]
        · simpa [alter, find?, hn, ho] using ih

/-- A change adds at most one name, at the end. -/
theorem keys_alter (m : Ordered κ α) (name : κ) (f : Option α → α) :
    (m.alter name f).keys = if name ∈ m.keys then m.keys else m.keys ++ [name] := by
  induction m with
  | nil => simp [alter, keys]
  | cons b rest ih =>
      obtain ⟨n, v⟩ := b
      by_cases h : n = name
      · simp [alter, keys, h]
      · have h' : ¬ name = n := fun e => h e.symm
        by_cases hm : name ∈ keys rest
        · simp_all [alter, keys]
        · simp_all [alter, keys]

theorem alter_of_not_mem {m : Ordered κ α} {name : κ} (f : Option α → α) (h : name ∉ m.keys) :
    m.alter name f = m ++ [(name, f none)] := by
  induction m with
  | nil => rfl
  | cons b rest ih =>
      obtain ⟨n, v⟩ := b
      simp only [keys, List.map_cons, List.mem_cons, not_or] at h
      rw [alter, if_neg (Ne.symm h.1), ih h.2, List.cons_append]

/-- The last name keeps its place. -/
theorem alter_concat_self {m : Ordered κ α} {name : κ} (value : α) (f : Option α → α)
    (h : name ∉ m.keys) :
    Ordered.alter (m ++ [(name, value)]) name f = m ++ [(name, f (some value))] := by
  induction m with
  | nil => simp [alter]
  | cons b rest ih =>
      obtain ⟨n, v⟩ := b
      simp only [keys, List.map_cons, List.mem_cons, not_or] at h
      rw [List.cons_append, alter, if_neg (Ne.symm h.1), ih h.2, List.cons_append]

/-- What is bound after a change was bound before it, or comes from it. -/
theorem mem_alter {m : Ordered κ α} {name : κ} {f : Option α → α} {b : κ × α}
    (h : b ∈ m.alter name f) :
    b ∈ m ∨ b = (name, f none) ∨ ∃ v, (name, v) ∈ m ∧ b = (name, f (some v)) := by
  induction m with
  | nil => exact Or.inr (Or.inl (List.mem_singleton.mp h))
  | cons b' rest ih =>
      obtain ⟨n, v⟩ := b'
      rw [alter] at h
      split at h
      · next hn =>
        subst hn
        rcases List.mem_cons.mp h with h | h
        · exact Or.inr (Or.inr ⟨v, List.mem_cons_self, h⟩)
        · exact Or.inl (List.mem_cons_of_mem _ h)
      · rcases List.mem_cons.mp h with h | h
        · exact Or.inl (h ▸ List.mem_cons_self)
        · rcases ih h with h | h | ⟨w, hw, h⟩
          · exact Or.inl (List.mem_cons_of_mem _ h)
          · exact Or.inr (Or.inl h)
          · exact Or.inr (Or.inr ⟨w, List.mem_cons_of_mem _ hw, h⟩)

/-- What is bound to a name of distinct names is found under it. -/
theorem find?_of_mem {m : Ordered κ α} {name : κ} {v : α} (hdistinct : m.keys.Nodup)
    (h : (name, v) ∈ m) : m.find? name = some v := by
  induction m with
  | nil => cases h
  | cons b rest ih =>
      obtain ⟨n, w⟩ := b
      rw [keys, List.map_cons, List.nodup_cons] at hdistinct
      rcases List.mem_cons.mp h with heq | hrest
      · cases heq
        rw [find?, if_pos rfl]
      · have hne : n ≠ name := by
          intro heq
          exact hdistinct.1 (List.mem_map.mpr ⟨(name, v), hrest, heq.symm⟩)
        rw [find?, if_neg hne]
        exact ih hdistinct.2 hrest

/-- A change shows among the bindings with names of some kind if it is one of a name of that kind. -/
theorem filter_alter (keep : κ → Bool) (m : Ordered κ α) (name : κ) (f : Option α → α) :
    (m.alter name f).filter (fun b => keep b.1) =
      if keep name then Ordered.alter (m.filter fun b => keep b.1) name f
      else m.filter fun b => keep b.1 := by
  induction m with
  | nil =>
      cases hname : keep name with
      | true => simp [alter, hname]
      | false => simp [alter, hname]
  | cons b rest ih =>
      obtain ⟨n, v⟩ := b
      by_cases h : n = name
      · subst h
        cases hname : keep n with
        | true => simp [alter, hname]
        | false => simp [alter, hname]
      · rw [alter, if_neg h, List.filter_cons, List.filter_cons, ih]
        cases hn : keep n with
        | true =>
            cases hname : keep name with
            | true => simp [alter, h]
            | false => simp
        | false => simp

theorem nodup_keys_alter {m : Ordered κ α} {name : κ} {f : Option α → α} (h : m.keys.Nodup) :
    (m.alter name f).keys.Nodup := by
  rw [keys_alter]
  split
  · exact h
  · next hnew =>
    rw [List.nodup_append]
    refine ⟨h, by simp, fun a ha b hb => ?_⟩
    rw [List.mem_singleton] at hb
    exact fun hab => hnew (hb ▸ hab ▸ ha)

omit [DecidableEq κ] in
/-- Of distinct names, one does not stand among those before it. -/
theorem not_mem_keys_of_nodup {m rest : Ordered κ α} {b : κ × α}
    (h : (keys (m ++ b :: rest)).Nodup) : b.1 ∉ m.keys := by
  intro hmem
  rw [keys, List.map_append, List.nodup_append] at h
  exact h.2.2 b.1 hmem b.1 List.mem_cons_self rfl

/-- Bindings of distinct names are left as they are. -/
theorem ofList_of_nodup {bindings : Ordered κ α} (h : bindings.keys.Nodup) :
    ofList bindings = bindings := by
  have hfold : ∀ (bindings m : Ordered κ α), (keys (m ++ bindings)).Nodup →
      bindings.foldl (fun m b => m.put b.1 b.2) m = m ++ bindings := by
    intro bindings
    induction bindings with
    | nil => simp
    | cons b rest ih =>
        intro m hm
        rw [List.foldl_cons, put, alter_of_not_mem _ (not_mem_keys_of_nodup hm),
          ih _ (by simpa using hm)]
        simp
  exact hfold bindings [] h

end Ordered

end SearchBridge
