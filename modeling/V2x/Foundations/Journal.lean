import Mathlib.Data.List.Forall2
import V2x.Foundations.TransitionSystem

namespace Foundations

/-!
# A journal in segments

Pieces come one after another and wait.  A flush puts all that wait behind the
current segment, and the current segment can be closed, where the next one
begins.  No piece is cut, and a closed segment does not change.
-/

universe u v

structure Journal (Piece : Type u) where
  closed : List (List Piece)
  current : List Piece
  waiting : List Piece

inductive JournalEvent (Piece : Type u) where
  | append (piece : Piece)
  | flush
  | close

namespace Journal

variable {Piece : Type u}

/-- The journal with some pieces in its first segment. -/
def begun (current : List Piece) : Journal Piece where
  closed := []
  current := current
  waiting := []

/-- All pieces, in order. -/
def pieces (journal : Journal Piece) : List Piece :=
  journal.closed.flatten ++ journal.current ++ journal.waiting

def append (journal : Journal Piece) (piece : Piece) : Journal Piece :=
  { journal with waiting := journal.waiting ++ [piece] }

def flush (journal : Journal Piece) : Journal Piece :=
  { journal with current := journal.current ++ journal.waiting, waiting := [] }

def close (journal : Journal Piece) : Journal Piece :=
  { journal with closed := journal.closed ++ [journal.current], current := [] }

def apply (journal : Journal Piece) : JournalEvent Piece -> Journal Piece
  | .append piece => journal.append piece
  | .flush => journal.flush
  | .close => journal.close

end Journal

/-- The journal as a machine. -/
def journaling (Piece : Type u) : Machine (Journal Piece) (JournalEvent Piece) where
  step journal event := some (journal.apply event)

namespace Journal

variable {Piece : Type u} {journal : Journal Piece}

@[simp] theorem pieces_flush : journal.flush.pieces = journal.pieces := by
  simp only [pieces, flush, List.append_assoc, List.append_nil]

@[simp] theorem pieces_close : journal.close.pieces = journal.pieces := by
  simp only [pieces, close, List.flatten_append, List.flatten_singleton, List.append_nil]

theorem run_appends (journal : Journal Piece) (pieces : List Piece) :
    (journaling Piece).run journal (pieces.map .append) =
      some { journal with waiting := journal.waiting ++ pieces } := by
  induction pieces generalizing journal with
  | nil => rw [List.append_nil, List.map_nil, Machine.run_nil]
  | cons piece pieces inductionHypothesis =>
      refine (inductionHypothesis (journal.append piece)).trans ?_
      rw [append, List.append_assoc, List.singleton_append]

end Journal
end Foundations
