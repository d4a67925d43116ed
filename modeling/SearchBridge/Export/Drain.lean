import SearchBridge.Export.Scroll
/-!
Draining the queue of an export to a text, one id per line.

The ids of a batch are written in code-point order. The mark of the end ends the drain; so does an
empty queue once the export is both done and cancelled.
-/

namespace SearchBridge

namespace Export

inductive Taken (ε : Type) where
  | batch (ids : IdSet)
  | endOfStream
  | empty
  | failed (e : ε)

/-- An attempt to take from the queue: the flags of the export that are set before it, and what it
yields. -/
structure Take (ε : Type) where
  done : Bool
  cancelled : Bool
  taken : Taken ε

/-- What a drain did: the lines written and how many ids it counted, how many entries it left, and
the failure that broke it off, if one did. -/
structure Drained (ε : Type) where
  lines : List Text
  written : Nat
  left : Nat
  failure : Option ε

/-- Drains the queue. `exhausted` is what goes wrong when the entries are used up. -/
def drain {ε : Type} (exhausted : ε) (done cancelled : Bool) : List (Take ε) → Drained ε
  | [] => ⟨[], 0, 0, some exhausted⟩
  | t :: rest =>
    let done := done || t.done
    let cancelled := cancelled || t.cancelled
    match t.taken with
    | .endOfStream => ⟨[], 0, rest.length, none⟩
    | .failed e => ⟨[], 0, rest.length, some e⟩
    | .empty =>
      if done && cancelled then ⟨[], 0, rest.length, none⟩ else drain exhausted done cancelled rest
    | .batch ids =>
      let d := drain exhausted done cancelled rest
      { d with lines := ids.toList ++ d.lines, written := ids.size + d.written }

/-- Lines of text, each closed by a line feed. -/
def linesText (lines : List Text) : Text := lines.flatMap fun l => l ++ [.char '\n']

end Export

end SearchBridge
