import GatewayLink.Session.Event

/-! The event channel: a bounded queue from the server to the application. Offering an event never waits: a
full channel drops it, and a closed one refuses it. -/

namespace GatewayLink

structure Channel where
  queue : List Event
  isOpen : Bool

namespace Channel

def capacity : Nat := 256

def empty : Channel := ⟨[], true⟩

def isFull (c : Channel) : Bool := capacity ≤ c.queue.length

def push (event : Event) (c : Channel) : Channel :=
  if c.isFull then c else { c with queue := c.queue ++ [event] }

def offer (events : List Event) (c : Channel) : Channel × Bool :=
  if c.isOpen then (events.foldl (fun c event => c.push event) c, true)
  else (c, events.isEmpty)

def next? (c : Channel) : Option (Event × Channel) :=
  match c.queue with
  | [] => none
  | event :: rest => some (event, { c with queue := rest })

def drained (c : Channel) : Channel := { c with queue := [] }

def close (_ : Channel) : Channel := ⟨[], false⟩

theorem isOpen_push (event : Event) (c : Channel) : (c.push event).isOpen = c.isOpen := by
  unfold push
  split <;> rfl

end Channel

end GatewayLink
