import GatewayLink.Session.Event

/-! Sessions: what is known of one gateway while it keeps sending.
A downlink is outstanding under its token until it is acknowledged, withdrawn or given up. Tokens are taken
from a counter that skips the outstanding ones. -/

namespace GatewayLink

structure Pending where
  packet : Packet
  deadline : Instant
  retries : Nat
  deriving DecidableEq

abbrev Outstanding := Std.ExtTreeMap Token Pending

structure Session where
  /-- The source of the latest keep-alive, where downlinks go. -/
  route : Option Address
  lastSeen : Instant
  lastKeepalive : Instant
  pending : Outstanding
  nextToken : UInt16
  /-- Acknowledgments that found nothing outstanding, one for each such datagram. A counter of 64 bits would count
  the same: at a datagram every nanosecond it comes around after five centuries. -/
  staleAcks : Nat

inductive Fate where
  | waits
  | retried (route : Address) (next : Pending)
  | fails

/-- The fate of a downlink at an instant: nothing before its deadline, then another transmission while
retries are left and there is a route. -/
def Pending.fate (policy : Policy) (route : Option Address) (now : Instant) (p : Pending) : Fate :=
  if p.deadline ≤ now then
    match route with
    | some address =>
      if p.retries < policy.maxRetries.toNat then
        .retried address { p with retries := p.retries + 1, deadline := policy.deadline now }
      else .fails
    | none => .fails
  else .waits

def Fate.kept (p : Pending) : Fate → Option Pending
  | waits => some p
  | retried _ next => some next
  | fails => none

def Fate.outbound? : Fate → Option Outbound
  | retried address next => some ⟨address, next.packet⟩
  | _ => none

def Fate.isFailure : Fate → Bool
  | fails => true
  | _ => false

namespace Session

def start (now : Instant) : Session := ⟨none, now, now, ∅, 0, 0⟩

/-- Instants may go backwards; what was seen later stays. -/
def touch (now : Instant) (s : Session) : Session := { s with lastSeen := max s.lastSeen now }

def keepAlive (now : Instant) (s : Session) : Session :=
  { s with lastKeepalive := max s.lastKeepalive now }

def isIdle (policy : Policy) (now : Instant) (s : Session) : Bool :=
  policy.window ≤ now - s.lastKeepalive

/-- The first of `count` numbers from `number` on, in cyclic order, whose token is free. -/
def firstFree (taken : Token → Bool) : (count : Nat) → (number : UInt16) → Option UInt16
  | 0, _ => none
  | count + 1, number =>
    if taken ⟨number⟩ then firstFree taken count (number + 1) else some number

def allocate? (s : Session) : Option (Token × Session) :=
  (firstFree s.pending.contains 65536 s.nextToken).map fun number =>
    (⟨number⟩, { s with nextToken := number + 1 })

def drawWithin : (count : Nat) → Session → Option Token × Session
  | 0, s => (none, s)
  | count + 1, s =>
    let next := { s with nextToken := s.nextToken + 1 }
    if s.pending.contains ⟨s.nextToken⟩ then drawWithin count next else (some ⟨s.nextToken⟩, next)

/-- The allocation number by number, at most once around the counter. `allocate?` tells what comes of it. -/
def draw (s : Session) : Option Token × Session := drawWithin 65536 s

def hold (token : Token) (p : Pending) (s : Session) : Session :=
  { s with pending := s.pending.insert token p }

def release (token : Token) (s : Session) : Session :=
  { s with pending := s.pending.erase token }

def fates (policy : Policy) (now : Instant) (s : Session) : List (Token × Fate) :=
  s.pending.toList.map fun (token, p) => (token, p.fate policy s.route now)

def expire (policy : Policy) (now : Instant) (s : Session) : Session :=
  { s with pending := s.pending.filterMap fun _ p => (p.fate policy s.route now).kept p }

def retransmissions (policy : Policy) (now : Instant) (s : Session) : List Outbound :=
  (s.fates policy now).filterMap fun (_, fate) => fate.outbound?

def failures (policy : Policy) (now : Instant) (s : Session) : List Token :=
  (s.fates policy now).filterMap fun (token, fate) => if fate.isFailure then some token else none

def outstanding (s : Session) : List Token := s.pending.keys

theorem firstFree_free {taken : Token → Bool} {count : Nat} {number found : UInt16}
    (h : firstFree taken count number = some found) : taken ⟨found⟩ = false := by
  induction count generalizing number with
  | zero => simp [firstFree] at h
  | succ count ih =>
    rw [firstFree] at h
    split at h
    · exact ih h
    · next free =>
      cases h
      simpa using free

end Session

end GatewayLink
