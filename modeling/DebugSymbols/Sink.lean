/-!
# Sinks

A sink takes octets until it is full.  What no longer fits is cut off and the
write fails; an empty write never does.  Flushing may fail as well.
-/

namespace DebugSymbols

/-- A place for octets: the pieces it has taken, latest first, how many more octets it takes if it
is bounded, and whether it can be flushed. -/
structure Sink where
  pieces : List (List UInt8) := []
  room : Option Nat := none
  flushes : Bool := true
  deriving DecidableEq, Repr

namespace Sink

def taken (sink : Sink) : List UInt8 :=
  sink.pieces.reverse.flatten

/-- Takes as many of the octets as fit, and says whether that was all of them. -/
def write (sink : Sink) (octets : List UInt8) : Bool × Sink :=
  match sink.room with
  | none => (true, { sink with pieces := octets :: sink.pieces })
  | some room =>
      (octets.length ≤ room,
        { sink with
          pieces := octets.take room :: sink.pieces
          room := some (room - octets.length) })

theorem taken_write_of_room_none {sink : Sink} (unbounded : sink.room = none)
    (octets : List UInt8) : (sink.write octets).2.taken = sink.taken ++ octets := by
  simp [write, unbounded, taken]

theorem taken_write_of_room {sink : Sink} {room : Nat} (bounded : sink.room = some room)
    (octets : List UInt8) : (sink.write octets).2.taken = sink.taken ++ octets.take room := by
  simp [write, bounded, taken]

/-- Writes one piece after the other up to the first that fails. -/
def writeAll (sink : Sink) : List (List UInt8) → Bool × Sink
  | [] => (true, sink)
  | piece :: rest =>
      match sink.write piece with
      | (true, after) => after.writeAll rest
      | (false, after) => (false, after)

end Sink

end DebugSymbols
