
namespace LogRouting

inductive Reception
  | signal
  | nothing
  | lagged (missed : Nat)
deriving DecidableEq

/-- A channel with room for the signal sent last. Of each receiver it knows how many signals came before the one
that the receiver takes next. -/
structure Channel where
  sent : Nat := 0
  next : List Nat := []
deriving DecidableEq, Inhabited

namespace Channel

def subscribe (c : Channel) : Nat × Channel := (c.next.length, { c with next := c.next ++ [c.sent] })

def send (c : Channel) : Channel := if c.next.isEmpty then c else { c with sent := c.sent + 1 }

/-- Takes the next signal of a receiver. One that missed signals is told so, and takes the signal that is left
when it asks again. -/
def receive (receiver : Nat) (c : Channel) : Reception × Channel :=
  match c.next[receiver]? with
  | none => (.nothing, c)
  | some n =>
    if n = c.sent then (.nothing, c)
    else if n + 1 = c.sent then (.signal, { c with next := c.next.set receiver c.sent })
    else (.lagged (c.sent - (n + 1)), { c with next := c.next.set receiver (c.sent - 1) })

end Channel

/-- All handles share one flag and one channel, so only their number counts. -/
structure Shutdown where
  handles : Nat := 1
  triggered : Bool := false
  channel : Channel := {}
deriving DecidableEq, Inhabited

namespace Shutdown

def clone (s : Shutdown) : Nat × Shutdown := (s.handles, { s with handles := s.handles + 1 })

def subscribe (s : Shutdown) : Nat × Shutdown :=
  let (receiver, channel) := s.channel.subscribe
  (receiver, { s with channel })

def trigger (s : Shutdown) : Shutdown :=
  if s.triggered then s else { s with triggered := true, channel := s.channel.send }

def poll (receiver : Nat) (s : Shutdown) : Bool × Shutdown :=
  let (received, channel) := s.channel.receive receiver
  (received = .signal, { s with channel })

end Shutdown
end LogRouting
