import SearchBridge.Text.Basic
/-!
Sets of texts, held as the list of their members in code-point order, each once.
-/

namespace SearchBridge

structure IdSet where
  toList : List Text
  ascending : toList.Pairwise (· < ·)
  deriving DecidableEq, Repr

namespace IdSet

/-- A list without members that equal their predecessor. -/
def dropRepeats : List Text → List Text
  | [] => []
  | [s] => [s]
  | s :: t :: rest => if s = t then dropRepeats (t :: rest) else s :: dropRepeats (t :: rest)

theorem mem_dropRepeats {s : Text} {l : List Text} : s ∈ dropRepeats l ↔ s ∈ l := by
  induction l using dropRepeats.induct with
  | case1 => simp [dropRepeats]
  | case2 => simp [dropRepeats]
  | case3 t rest ih => simpa [dropRepeats] using ih
  | case4 t u rest h ih => simp [dropRepeats, h, ih]

theorem pairwise_dropRepeats {l : List Text} (h : l.Pairwise (· ≤ ·)) :
    (dropRepeats l).Pairwise (· < ·) := by
  induction l using dropRepeats.induct with
  | case1 => simp [dropRepeats]
  | case2 => simp [dropRepeats]
  | case3 t rest ih => simpa [dropRepeats] using ih h.of_cons
  | case4 t u rest hne ih =>
      rw [dropRepeats, if_neg hne, List.pairwise_cons]
      refine ⟨fun s hs => ?_, ih h.of_cons⟩
      have hmem : s ∈ u :: rest := mem_dropRepeats.1 hs
      have htu : t ≤ u := (List.pairwise_cons.1 h).1 u List.mem_cons_self
      have hus : u ≤ s := by
        rcases List.mem_cons.1 hmem with rfl | hr
        · exact List.le_refl _
        · exact (List.pairwise_cons.1 h.of_cons).1 s hr
      refine List.not_le.1 fun hst => hne ?_
      exact List.le_antisymm htu (List.le_trans hus hst)

def ofList (l : List Text) : IdSet where
  toList := dropRepeats (l.mergeSort (· ≤ ·))
  ascending := by
    refine pairwise_dropRepeats ?_
    have h := @List.pairwise_mergeSort _ (fun a b : Text => decide (a ≤ b))
      (fun a b c hab hbc => by
        simp only [decide_eq_true_eq] at hab hbc ⊢
        exact List.le_trans hab hbc)
      (fun a b => by simpa using List.le_total a b) l
    exact h.imp fun hab => by simpa using hab

def size (s : IdSet) : Nat := s.toList.length

theorem mem_ofList {s : Text} {l : List Text} : s ∈ (ofList l).toList ↔ s ∈ l := by
  simp [ofList, mem_dropRepeats]

theorem toList_ofList_eq_nil {l : List Text} : (ofList l).toList = [] ↔ l = [] := by
  simp only [List.eq_nil_iff_forall_not_mem, mem_ofList]

theorem ext {a b : IdSet} (h : ∀ s, s ∈ a.toList ↔ s ∈ b.toList) : a = b := by
  have hnodup (m : IdSet) : m.toList.Nodup := by
    refine m.ascending.imp ?_
    intro s t hlt heq
    subst heq
    exact List.lt_irrefl s hlt
  have hperm := (List.perm_ext_iff_of_nodup (hnodup a) (hnodup b)).mpr h
  have heq : a.toList = b.toList := by
    refine hperm.eq_of_pairwise ?_ a.ascending b.ascending
    intro s t _ _ hst hts
    exact absurd hts (List.lt_asymm hst)
  cases a
  cases b
  cases heq
  rfl

/-- Neither the order nor the repetition of members makes a difference to a set. -/
theorem ofList_congr {l₁ l₂ : List Text} (h : ∀ s, s ∈ l₁ ↔ s ∈ l₂) : ofList l₁ = ofList l₂ := by
  apply ext
  intro s
  rw [mem_ofList, mem_ofList, h]

instance : Union IdSet := ⟨fun a b => ofList (a.toList ++ b.toList)⟩

theorem mem_union {s : Text} {a b : IdSet} : s ∈ (a ∪ b).toList ↔ s ∈ a.toList ∨ s ∈ b.toList := by
  change s ∈ (ofList (a.toList ++ b.toList)).toList ↔ _
  rw [mem_ofList, List.mem_append]

theorem ofList_append (l₁ l₂ : List Text) : ofList (l₁ ++ l₂) = ofList l₁ ∪ ofList l₂ := by
  apply ext
  intro s
  rw [mem_union, mem_ofList, mem_ofList, mem_ofList, List.mem_append]

end IdSet

end SearchBridge
