import TransportStream.Bytes
import TransportStream.Error

/-!
Sources a session can pull its input from.
-/
namespace TransportStream

/-- How a source takes a request to move. -/
inductive Seeking where
  | allowed
  /-- The source cannot move. -/
  | unavailable
  | failing (text : String)
  deriving DecidableEq, Repr

/-- Bytes that are read from a position on. A read gives at most `readLimit` bytes if
there is a limit, and fails once the position has reached that of `fault`. A source read in
blocks counts them from `origin`, where it was last placed. -/
structure Source where
  data : Bytes
  position : Nat := 0
  origin : Nat := 0
  readLimit : Option Nat := none
  block : Option Nat := none
  fault : Option (Nat × String) := none
  seeking : Seeking := .allowed
  deriving DecidableEq, Repr

namespace Source

/-- The bytes from the position on. -/
def rest (source : Source) : Bytes := source.data.drop source.position

/-- Why a read fails at this position, if it does. -/
def failure? (source : Source) : Option String :=
  source.fault.bind fun (position, text) =>
    if position ≤ source.position then some text else none

/-- How many bytes a read of `count` can give at this position. A read of less than a
block does not cross a block's end. -/
def allowance (source : Source) (count : Nat) : Nat :=
  let limited := min count (source.readLimit.getD count)
  match source.block with
  | none => limited
  | some size =>
    if size ≤ count then limited
    else min limited (size - (source.position - source.origin) % size)

/-- Reads at most `count` bytes; none at the end. -/
def read (source : Source) (count : Nat) : Except Error (Source × Bytes) :=
  match source.failure? with
  | some text => .error (.io text)
  | none =>
    let chunk := source.rest.take (source.allowance count)
    .ok ({ source with position := source.position + chunk.length }, chunk)

/-- Moves to an offset, which may lie past the end. False if the source cannot move. -/
def seekTo (source : Source) (offset : Nat) : Except Error (Source × Bool) :=
  match source.seeking with
  | .allowed => .ok ({ source with position := offset, origin := offset }, true)
  | .unavailable => .ok (source, false)
  | .failing text => .error (.io text)

/-- Bytes left to read. -/
def remaining (source : Source) : Nat := source.data.length - source.position

theorem remaining_read {source next : Source} {count : Nat} {chunk : Bytes}
    (result : source.read count = .ok (next, chunk)) (fed : chunk ≠ []) :
    next.remaining < source.remaining := by
  unfold read at result
  split at result
  · cases result
  · simp only [Except.ok.injEq, Prod.mk.injEq] at result
    obtain ⟨moved, taken⟩ := result
    subst moved taken
    have positive := List.length_pos_iff.mpr fed
    simp only [remaining, rest, List.length_take, List.length_drop] at positive ⊢
    omega

end Source

end TransportStream
