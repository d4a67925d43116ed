/-!
Character sets whose characters stand in the cells of numbered rows.

A grid lists the characters of its cells. Later standards number the characters that an older grid
lacks one after the other: `skip` finds such a character without a list of them, and what it finds
is never a character of the older grid (`skip_notMem`).
-/

namespace SearchBridge

namespace Grid

/-- Neighbouring cells of a row: the row, the first cell, and the characters from there on. A space
stands in a cell that is empty. -/
structure Run where
  row : Nat
  first : Nat
  cells : String
  deriving DecidableEq, Repr

/-- The code point in a cell, if the run has the cell and it is not empty. -/
def Run.point? (r : Run) (row cell : Nat) : Option Nat :=
  if r.row = row ∧ r.first ≤ cell then
    ((r.cells.toList[cell - r.first]?).filter (· ≠ ' ')).map Char.toNat
  else none

end Grid

/-- A grid of characters. A few cells, each named by its row and its number in one, hold a character
that is written with two code points. -/
structure Grid where
  rows : List Grid.Run
  pairs : List (Nat × List Nat)
  deriving DecidableEq, Repr

namespace Grid

def cell? (g : Grid) (row cell : Nat) : Option (List Nat) :=
  ((g.rows.findSome? (·.point? row cell)).map ([·])).or (g.pairs.lookup (row * 256 + cell))

/-- The code points from `low` to `high` that stand in cells of their own. -/
def pointsWithin (g : Grid) (low high : Nat) : List Nat :=
  (g.rows.flatMap fun r => r.cells.toList.map Char.toNat).filter fun n => low ≤ n && n ≤ high

/-- Counting that passes over the numbers of an ascending list: each of them at or below the number
reached moves it on by one. -/
def skip (listed : List Nat) (n : Nat) : Nat :=
  listed.foldl (fun reached p => if p ≤ reached then reached + 1 else reached) n

theorem skip_cons (p : Nat) (listed : List Nat) (n : Nat) :
    skip (p :: listed) n = skip listed (if p ≤ n then n + 1 else n) := rfl

theorem le_skip (listed : List Nat) (n : Nat) : n ≤ skip listed n := by
  induction listed generalizing n with
  | nil => exact Nat.le_refl n
  | cons p listed ih =>
      rw [skip_cons]
      refine Nat.le_trans ?_ (ih _)
      split <;> omega

theorem skip_of_lt {listed : List Nat} {n : Nat} (h : ∀ p ∈ listed, n < p) :
    skip listed n = n := by
  induction listed with
  | nil => rfl
  | cons p listed ih =>
      have hp : ¬p ≤ n := Nat.not_le.2 (h p List.mem_cons_self)
      rw [skip_cons, if_neg hp]
      exact ih fun q hq => h q (List.mem_cons_of_mem _ hq)

/-- Counting never stops at a listed number. -/
theorem skip_notMem {listed : List Nat} (h : listed.Pairwise (· < ·)) (n : Nat) :
    skip listed n ∉ listed := by
  induction listed generalizing n with
  | nil => simp
  | cons p listed ih =>
      obtain ⟨hp, hrest⟩ := List.pairwise_cons.1 h
      rw [skip_cons, List.mem_cons, not_or]
      refine ⟨?_, ih hrest _⟩
      by_cases hn : p ≤ n
      · rw [if_pos hn]
        have := le_skip listed (n + 1)
        omega
      · rw [if_neg hn, skip_of_lt fun q hq => Nat.lt_trans (Nat.not_le.1 hn) (hp q hq)]
        omega

end Grid

end SearchBridge
