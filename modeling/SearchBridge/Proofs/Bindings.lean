import Mathlib.Data.List.Induction
import SearchBridge.Ordered
/-!
Bindings that come from changes made one after the other.

The names stand in the order in which each of them is changed first, whatever the changes do to the
values. Where every change replaces the value, the last one of a name counts.
-/

namespace SearchBridge

namespace Ordered

variable {κ α β : Type} [DecidableEq κ]

/-- The names that are changed stand in the order in which each of them comes first. -/
theorem keys_foldl_alter [BEq κ] [LawfulBEq κ] (name : β → κ) (change : β → Option α → α)
    (changes : List β) :
    (changes.foldl (fun (m : Ordered κ α) c => m.alter (name c) (change c)) []).keys =
      (changes.map name).eraseDups := by
  induction changes using List.reverseRecOn with
  | nil => rfl
  | append_singleton changes c ih =>
      rw [List.foldl_append, List.foldl_cons, List.foldl_nil, keys_alter, ih, List.map_append,
        List.eraseDups_append]
      generalize changes.map name = names
      by_cases h : name c ∈ names
      · rw [if_pos (List.mem_eraseDups.mpr h)]
        simp [List.removeAll, h]
      · rw [if_neg (mt List.mem_eraseDups.mp h)]
        simp [List.removeAll, h, List.eraseDups_cons]

theorem ofList_concat (bindings : List (κ × α)) (b : κ × α) :
    ofList (bindings ++ [b]) = (ofList bindings).put b.1 b.2 :=
  List.foldl_append

theorem nodup_keys_ofList (bindings : List (κ × α)) : (ofList bindings).keys.Nodup := by
  induction bindings using List.reverseRecOn with
  | nil => exact List.nodup_nil
  | append_singleton bindings b ih =>
      rw [ofList_concat]
      exact nodup_keys_alter ih

theorem mem_of_mem_ofList {bindings : List (κ × α)} {b : κ × α} (h : b ∈ ofList bindings) :
    b ∈ bindings := by
  induction bindings using List.reverseRecOn with
  | nil => cases h
  | append_singleton bindings last ih =>
      rw [ofList_concat] at h
      rcases mem_alter h with h | rfl | ⟨v, -, rfl⟩
      · exact List.mem_append_left _ (ih h)
      · exact List.mem_append_right _ (List.mem_singleton.mpr rfl)
      · exact List.mem_append_right _ (List.mem_singleton.mpr rfl)

/-- The names that are bound stand in the order in which each of them comes first. -/
theorem keys_ofList [BEq κ] [LawfulBEq κ] (bindings : List (κ × α)) :
    (ofList bindings).keys = (bindings.map (·.1)).eraseDups :=
  keys_foldl_alter Prod.fst (fun b _ => b.2) bindings

/-- The last of the bindings of a name counts. -/
theorem find?_ofList_last {before after : List (κ × α)} {name : κ} (v : α)
    (h : ∀ b ∈ after, b.1 ≠ name) :
    (ofList (before ++ (name, v) :: after)).find? name = some v := by
  induction after using List.reverseRecOn with
  | nil =>
      rw [ofList_concat]
      exact find?_alter_self _ name _
  | append_singleton after b ih =>
      rw [List.forall_mem_append, List.forall_mem_singleton] at h
      rw [← List.cons_append, ← List.append_assoc, ofList_concat, put,
        find?_alter_of_ne _ (Ne.symm h.2), ih h.1]

end Ordered

end SearchBridge
