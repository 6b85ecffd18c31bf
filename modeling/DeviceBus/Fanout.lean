/-!
# Fan-out with bounded lag

Every broadcast body is entered into a log.  Each receiver stands at a position of the log, and takes the
bodies from there on one by one.  A receiver that has fallen too far behind is told how many bodies it
has missed and goes on with the oldest of the most recent ones.  A receiver begins at the end of the log.
-/

namespace DeviceBus

/-- The bodies that were broadcast, oldest first. -/
structure Fanout where
  log : Array ByteArray

namespace Fanout

/-- How many bodies a receiver may be behind. -/
def capacity : Nat := 1024

/-- Nothing was broadcast yet. -/
def empty : Fanout := ⟨#[]⟩

/-- Broadcast a body. -/
def broadcast (fanout : Fanout) (body : ByteArray) : Fanout := ⟨fanout.log.push body⟩

/-- Where a receiver stands: its position in the log, and what it has taken and missed on the way. -/
structure Cursor where
  next : Nat
  taken : Nat := 0
  skipped : Nat := 0
  deriving DecidableEq, Repr

/-- A new receiver. -/
def subscribe (fanout : Fanout) : Cursor := { next := fanout.log.size }

/-- What a receiver gets. -/
inductive Receipt where
  | body (body : ByteArray)
  | lagged (missed : Nat)
  | nothing

/-- How many bodies a receiver has not taken yet. -/
def unread (fanout : Fanout) (cursor : Cursor) : Nat := fanout.log.size - cursor.next

/-- The next thing a receiver gets. -/
def receive (fanout : Fanout) (cursor : Cursor) : Receipt × Cursor :=
  if capacity < fanout.unread cursor then
    let missed := fanout.unread cursor - capacity
    (.lagged missed, { cursor with next := cursor.next + missed, skipped := cursor.skipped + missed })
  else
    match fanout.log[cursor.next]? with
    | some body => (.body body, { cursor with next := cursor.next + 1, taken := cursor.taken + 1 })
    | none => (.nothing, cursor)

end Fanout

end DeviceBus
