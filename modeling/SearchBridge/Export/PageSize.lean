import SearchBridge.Number.Basic
/-!
How many documents a page of an export may have.
-/

namespace SearchBridge

namespace Export

/-- A page size: a number, which need not be whole, or a truth value in place of zero and one. -/
inductive PageSize where
  | number (n : Number)
  | truth (b : Bool)
  deriving DecidableEq, Repr

namespace PageSize

def text : PageSize → String
  | .number n => n.text
  | .truth b => if b then "True" else "False"

/-- Whether the size is below one, so that no document has room; `nan` is not. -/
def isTooSmall : PageSize → Bool
  | .number n => n.isBelowOne
  | .truth b => !b

@[simp] theorem isTooSmall_int (i : Int) : isTooSmall (.number (.int i)) = decide (i < 1) := rfl

end PageSize

end Export

end SearchBridge
