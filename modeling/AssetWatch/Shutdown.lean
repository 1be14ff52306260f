/-!
# Shutdown

Whoever holds a handle can ask for the shutdown, any number of times; whoever subscribed
before hears of it. Only the last request is kept, so a slow receiver first learns how many
it missed, and then still gets the one that is kept.
-/

namespace AssetWatch

/-- Handles and receivers by their numbers. Requests are counted; a receiver remembers how
many it is done with. -/
structure Shutdown where
  requests : Nat := 0
  /-- whether a handle is still held -/
  handles : List Bool := [true]
  /-- the position of a receiver that still listens -/
  receivers : List (Option Nat) := []

namespace Shutdown

/-- What a receiver that does not wait learns. -/
inductive Reception
  | signal
  | empty
  /-- nothing is pending and no handle is left -/
  | closed
  /-- that many requests are lost -/
  | lagged (missed : Nat)
  deriving DecidableEq

/-- A receiver that waits is woken by anything but an empty channel, and takes it for a request
to stop. -/
def Reception.resolves : Reception → Bool
  | .empty => false
  | .signal | .closed | .lagged _ => true

def holds (s : Shutdown) (handle : Nat) : Bool := s.handles[handle]?.getD false

/-- Some handle is left. -/
def isOpen (s : Shutdown) : Bool := s.handles.any id

def receiverCount (s : Shutdown) : Nat := s.receivers.countP Option.isSome

/-- A new receiver, which hears of later requests only, and its number. -/
def subscribe (s : Shutdown) : Nat × Shutdown :=
  (s.receivers.length, { s with receivers := s.receivers ++ [some s.requests] })

def trigger (s : Shutdown) : Shutdown := { s with requests := s.requests + 1 }

/-- One more handle, and its number. -/
def clone (s : Shutdown) : Nat × Shutdown :=
  (s.handles.length, { s with handles := s.handles ++ [true] })

def dropHandle (handle : Nat) (s : Shutdown) : Shutdown :=
  { s with handles := s.handles.set handle false }

def dropReceiver (id : Nat) (s : Shutdown) : Shutdown :=
  { s with receivers := s.receivers.set id none }

/-- What a receiver at a position learns, and its position afterwards. -/
def receiveAt (s : Shutdown) (position : Nat) : Reception × Nat :=
  if s.requests ≤ position then (if s.isOpen then .empty else .closed, position)
  else if position + 1 = s.requests then (.signal, position + 1)
  else (.lagged (s.requests - 1 - position), s.requests - 1)

/-- Receives without waiting; nothing if the receiver no longer listens. -/
def receive? (id : Nat) (s : Shutdown) : Option (Reception × Shutdown) :=
  match s.receivers[id]? with
  | some (some position) =>
    let (reception, position) := s.receiveAt position
    some (reception, { s with receivers := s.receivers.set id (some position) })
  | _ => none

end Shutdown

end AssetWatch
