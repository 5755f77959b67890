import GatewayLink.Link.Loopback
import GatewayLink.Link.Run

/-! Loopbacks run servers.
Whatever is done to a loopback, short of closing its channel, makes its server go through a run, and nothing gets into
flight but what the server sends in that run. So what holds of all runs of a server holds of all tests of it. -/

namespace GatewayLink

namespace Server

theorem run_append (socket : Socket) (s : Server) (first second : List Move) :
    s.run socket (first ++ second) =
      ⟨((s.run socket first).server.run socket second).server,
        (s.run socket first).steps ++ ((s.run socket first).server.run socket second).steps,
        (s.run socket first).taken ++ ((s.run socket first).server.run socket second).taken⟩ := by
  induction first generalizing s with
  | nil => rfl
  | cons move rest ih =>
    cases move with
    | input given =>
      rw [List.cons_append, run, ih]
      rfl
    | take =>
      rw [List.cons_append, run, run]
      cases s.nextEvent? with
      | none => exact ih s
      | some found => simp only [ih, List.cons_append]

end Server

namespace Loopback

open Server (Move)

/-- One loopback becomes another through a run of its server. -/
def Reaches (l next : Loopback) : Prop :=
  ∃ moves : List Move, next.server = (l.server.run .datagram moves).server ∧
    next.inFlight.Sublist (l.inFlight ++ (l.server.run .datagram moves).steps.flatMap ServerStep.sent)

variable {l next last : Loopback}

theorem Reaches.refl (l : Loopback) : l.Reaches l :=
  ⟨[], rfl, by simp [Server.run]⟩

theorem Reaches.trans (first : l.Reaches next) (second : next.Reaches last) : l.Reaches last := by
  obtain ⟨moves, server, sent⟩ := first
  obtain ⟨others, server', sent'⟩ := second
  rw [server] at server' sent'
  refine ⟨moves ++ others, by rw [Server.run_append, server'], sent'.trans ?_⟩
  rw [Server.run_append, List.flatMap_append, ← List.append_assoc]
  exact sent.append_right _

theorem reaches_deliver (given : Server.Input) : l.Reaches (l.deliver (l.server.perform .datagram given)) :=
  ⟨[.input given], rfl, by simp [Server.run, deliver]⟩

theorem reaches_post (datagram : List UInt8) (source : Address) : l.Reaches (l.post datagram source) :=
  reaches_deliver (.receive datagram source l.now)

theorem reaches_tick : l.Reaches l.tick :=
  reaches_deliver (.sweep (l.now + l.server.registry.policy.sweepInterval.toNat))

theorem reaches_submit (gateway : GatewayId) (command : DownlinkCommand) :
    l.Reaches (l.submit gateway command).2 := by
  have same : (l.submit gateway command).2 =
      l.deliver (l.server.perform .datagram (.submit gateway command l.now)) := by
    rw [submit, Server.perform]
    cases l.server.submit .datagram gateway command l.now with
    | mk result server => cases result <;> rfl
  rw [same]
  exact reaches_deliver _

theorem reaches_cancel (gateway : GatewayId) (token : Token) : l.Reaches (l.cancel gateway token).2 :=
  ⟨[.input (.cancel gateway token)], rfl, by simp [cancel]⟩

theorem reaches_nextEvent {event : Event} (taken : l.nextEvent? = some (event, next)) : l.Reaches next := by
  obtain ⟨⟨_, server⟩, found, same⟩ := Option.map_eq_some_iff.mp taken
  cases same
  exact ⟨[.take], by rw [Server.run, found]; rfl, by simp⟩

theorem sublist_of_takeFirst? {α : Type} {wanted : α → Bool} {as others : List α} {a : α}
    (taken : takeFirst? wanted as = some (a, others)) : others.Sublist as := by
  induction as generalizing others with
  | nil => cases taken
  | cons first rest ih =>
    rw [takeFirst?] at taken
    split at taken
    · cases taken
      exact List.sublist_cons_self _ _
    · obtain ⟨⟨_, left⟩, found, same⟩ := Option.map_eq_some_iff.mp taken
      cases same
      exact (ih found).cons_cons _

theorem reaches_collect {address : Address} {p : Packet} (taken : l.collect? address = some (p, next)) :
    l.Reaches next := by
  obtain ⟨⟨_, others⟩, found, same⟩ := Option.map_eq_some_iff.mp taken
  cases same
  exact ⟨[], rfl, by simpa [Server.run] using sublist_of_takeFirst? found⟩

section Waiting

variable {α : Type} {attempt : Loopback → Option (α × Loopback)}

/-- A wait is a run if each attempt is one: between two attempts only a sweep comes. -/
theorem reaches_retry (runs : ∀ l a next, attempt l = some (a, next) → l.Reaches next) (ticks : Nat) (l : Loopback) :
    l.Reaches (retry attempt ticks l).2 := by
  induction ticks generalizing l with
  | zero =>
    rw [retry]
    split
    · next found => exact runs _ _ _ found
    · exact .refl l
  | succ ticks ih =>
    rw [retry]
    split
    · next found => exact runs _ _ _ found
    · exact reaches_tick.trans (ih l.tick)

theorem reaches_awaitPacket (address : Address) (l : Loopback) : l.Reaches (l.awaitPacket address).2 :=
  reaches_retry (fun _ _ _ => reaches_collect) _ l

theorem reaches_awaitEvent (l : Loopback) : l.Reaches l.awaitEvent.2 :=
  reaches_retry (fun _ _ _ => reaches_nextEvent) _ l

end Waiting

theorem reaches_burst (datagram : List UInt8) (source : Address) (count : Nat) (l : Loopback) :
    l.Reaches (burst datagram source count l).2 := by
  induction count generalizing l with
  | zero => exact .refl l
  | succ count ih =>
    exact (reaches_post datagram source).trans ((reaches_awaitPacket source _).trans (ih _))

theorem reaches_drain (l : Loopback) : l.Reaches l.drain.2 := by
  obtain ⟨⟨registry, ⟨queue, isOpen⟩, receiving, sweeping⟩, now, inFlight⟩ := l
  -- the queue gets shorter with each event that is taken, so one move for each empties it
  induction queue with
  | nil => exact .refl _
  | cons event rest ih => exact (reaches_nextEvent rfl).trans ih

inductive Errand where
  | post (datagram : List UInt8) (source : Address)
  | submit (gateway : GatewayId) (command : DownlinkCommand)
  | cancel (gateway : GatewayId) (token : Token)
  | awaitPacket (address : Address)
  | awaitEvent
  | burst (datagram : List UInt8) (source : Address) (count : Nat)
  | drain

def run (l : Loopback) : Errand → Loopback
  | .post datagram source => l.post datagram source
  | .submit gateway command => (l.submit gateway command).2
  | .cancel gateway token => (l.cancel gateway token).2
  | .awaitPacket address => (l.awaitPacket address).2
  | .awaitEvent => l.awaitEvent.2
  | .burst datagram source count => (l.burst datagram source count).2
  | .drain => l.drain.2

/-- A test that leaves the channel open is a run of the server. -/
theorem reaches_test (l : Loopback) (errands : List Errand) : l.Reaches (errands.foldl run l) := by
  induction errands generalizing l with
  | nil => exact .refl l
  | cons errand rest ih =>
    refine Reaches.trans ?_ (ih (l.run errand))
    cases errand with
    | post datagram source => exact reaches_post datagram source
    | submit gateway command => exact reaches_submit gateway command
    | cancel gateway token => exact reaches_cancel gateway token
    | awaitPacket address => exact reaches_awaitPacket address l
    | awaitEvent => exact reaches_awaitEvent l
    | burst datagram source count => exact reaches_burst datagram source count l
    | drain => exact reaches_drain l

end Loopback

end GatewayLink
