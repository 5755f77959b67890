import GatewayLink.Link.Run
import GatewayLink.Proofs.Registry.Passes
import GatewayLink.Proofs.Registry.Transmission

/-! Events on their way to the application.
While the channel is open a server sends and keeps what its registry makes of the inputs, whether the application
takes its events or not. The application is handed what was reported, in order, but for what was reported while the
channel was full. -/

namespace GatewayLink

inductive Signal where
  | reported (event : Event)
  | taken

namespace Signal

/-- What a queue of bounded length lets through that holds `held` events at first. -/
def admitted (capacity : Nat) : (held : Nat) → List Signal → List Event
  | _, [] => []
  | held, reported event :: rest =>
    if held < capacity then event :: admitted capacity (held + 1) rest
    else admitted capacity held rest
  | held, taken :: rest => admitted capacity (held - 1) rest

end Signal

namespace Channel

variable (c : Channel) (events : List Event)

/-- What a channel holds and will let through. -/
def through (rest : List Signal) : List Event := c.queue ++ Signal.admitted capacity c.queue.length rest

theorem through_push (event : Event) (rest : List Signal) :
    (c.push event).through rest = c.through (.reported event :: rest) := by
  rw [through, through, Signal.admitted, push, isFull]
  by_cases room : c.queue.length < capacity
  · rw [if_neg (by simpa using room), if_pos room, List.length_append, List.length_singleton,
      List.append_assoc, List.singleton_append]
  · rw [if_pos (by simpa using room), if_neg room]

theorem through_foldl_push (rest : List Signal) :
    (events.foldl (fun c event => c.push event) c).through rest =
      c.through (events.map .reported ++ rest) := by
  induction events generalizing c with
  | nil => rfl
  | cons event others ih => rw [List.foldl_cons, ih, through_push, List.map_cons, List.cons_append]

theorem isOpen_foldl_push :
    (events.foldl (fun c event => c.push event) c).isOpen = c.isOpen := by
  induction events generalizing c with
  | nil => rfl
  | cons event others ih => rw [List.foldl_cons, ih, isOpen_push]

variable {c}

theorem offer_of_open (opened : c.isOpen = true) :
    (c.offer events).2 = true ∧ (c.offer events).1.isOpen = true ∧
      ∀ rest, (c.offer events).1.through rest = c.through (events.map .reported ++ rest) := by
  rw [offer, if_pos opened]
  exact ⟨rfl, (isOpen_foldl_push c events).trans opened, through_foldl_push c events⟩

theorem next_eq_some {next : Channel} {event : Event} (taken : c.next? = some (event, next)) :
    next.isOpen = c.isOpen ∧ ∀ rest, c.through (.taken :: rest) = event :: next.through rest := by
  unfold next? at taken
  split at taken
  · cases taken
  · next others queue =>
    cases taken
    refine ⟨rfl, fun rest => ?_⟩
    rw [through, queue]
    rfl

theorem through_untaken (empty : c.next? = none) (rest : List Signal) :
    c.through (.taken :: rest) = c.through rest := by
  unfold next? at empty
  split at empty
  · next queue =>
    rw [through, through, queue]
    rfl
  · cases empty

end Channel

namespace Registry

/-- What comes of an action if sweeps are made in passes, as a server makes them. -/
def performInPasses (r : Registry) : Action → Outcome Answer
  | .sweep now => (r.sweepInPasses now).map .swept
  | action => r.perform action

theorem registry_performInPasses (r : Registry) (action : Action) :
    (r.performInPasses action).registry = (r.perform action).registry := by
  cases action with
  | sweep now => exact r.registry_passes now
  | _ => rfl

/-- What the inputs of a run make a registry report, with what the application takes in between. -/
def signals (r : Registry) : List Server.Move → List Signal
  | [] => []
  | .input given :: rest =>
    let outcome := r.performInPasses given.action
    outcome.answer.events.map .reported ++ outcome.registry.signals rest
  | .take :: rest => .taken :: r.signals rest

end Registry

def ServerStep.shown (step : ServerStep) : List Outbound × Registry := (step.sent, step.server.registry)

def Step.shown (socket : Socket) (s : Step) : List Outbound × Registry :=
  ((s.before.performInPasses s.action).answer.outbounds.filter socket, s.after)

namespace Server

/-- Both loops are running, and the application has not closed the channel. -/
structure Live (s : Server) : Prop where
  receiving : s.receiving = true
  sweeping : s.sweeping = true
  opened : s.channel.isOpen = true

theorem live_start (policy : Policy) : (start policy).Live := ⟨rfl, rfl, rfl⟩

def actions (moves : List Move) : List Action := (moves.filterMap Move.input?).map Input.action

structure Follows (socket : Socket) (s : Server) (action : Action) (step : ServerStep) : Prop where
  shown : step.shown = (Step.mk s.registry action).shown socket
  live : step.server.Live
  through : ∀ rest, step.server.channel.through rest =
    s.channel.through ((s.registry.performInPasses action).answer.events.map .reported ++ rest)

variable {socket : Socket} {s : Server}

theorem Follows.of_answer {action : Action} {step : ServerStep} {a : Answer}
    (answered : (s.registry.performInPasses action).answer = a)
    (shown : step.shown = (a.outbounds.filter socket, (s.registry.perform action).registry))
    (live : step.server.Live)
    (through : ∀ rest, step.server.channel.through rest =
      s.channel.through (a.events.map .reported ++ rest)) :
    Follows socket s action step := by
  subst answered
  exact ⟨shown, live, through⟩

theorem follows_receive (live : s.Live) (datagram : List UInt8) (source : Address) (now : Instant) :
    Follows socket s (.receive datagram source now) (s.receive socket datagram source now) := by
  obtain ⟨receiving, sweeping, opened⟩ := live
  rw [receive, if_pos receiving]
  dsimp only
  cases answer : (s.registry.receive datagram source now).answer with
  | error fault =>
    exact .of_answer (congrArg Answer.dispatched answer) rfl ⟨receiving, sweeping, opened⟩
      fun _ => rfl
  | ok dispatch =>
    obtain ⟨taken, still, through⟩ := Channel.offer_of_open dispatch.events opened
    exact .of_answer (congrArg Answer.dispatched answer) rfl ⟨taken, sweeping, still⟩ through

theorem follows_sweep (live : s.Live) (now : Instant) :
    Follows socket s (.sweep now) (s.sweep socket now) := by
  obtain ⟨receiving, sweeping, opened⟩ := live
  obtain ⟨taken, still, through⟩ :=
    Channel.offer_of_open (s.registry.sweepInPasses now).answer.events opened
  rw [sweep, if_pos sweeping]
  exact ⟨congrArg (Prod.mk _) (s.registry.registry_passes now), ⟨receiving, taken, still⟩, through⟩

theorem sent_of_submit (socket : Socket) (out : Outbound) :
    (if socket out then Except.ok out else .error SubmitFault.notSent).toOption.toList =
      [out].filter socket := by
  cases taken : socket out <;> simp [taken, Except.toOption]

theorem follows_submit (live : s.Live) (gateway : GatewayId) (command : DownlinkCommand)
    (now : Instant) :
    Follows socket s (.send gateway command now) (s.perform socket (.submit gateway command now)) := by
  obtain ⟨receiving, sweeping, opened⟩ := live
  rw [perform, submit]
  dsimp only
  cases answer : (s.registry.send gateway command now).answer with
  | error fault =>
    exact .of_answer (congrArg Answer.sent answer) rfl ⟨receiving, sweeping, opened⟩ fun _ => rfl
  | ok out =>
    exact .of_answer (congrArg Answer.sent answer) (congrArg (·, _) (sent_of_submit socket out))
      ⟨receiving, sweeping, opened⟩ fun _ => rfl

theorem follows_perform (live : s.Live) (given : Input) :
    Follows socket s given.action (s.perform socket given) := by
  cases given with
  | receive datagram source now => exact follows_receive live datagram source now
  | submit gateway command now => exact follows_submit live gateway command now
  | cancel gateway token => exact ⟨rfl, ⟨live.receiving, live.sweeping, live.opened⟩, fun rest => rfl⟩
  | sweep now => exact follows_sweep live now

/-- A run shows what the registry makes of its inputs, and its channel lets through what there was room for. -/
structure Undisturbed (socket : Socket) (s : Server) (moves : List Move) (r : Run) : Prop where
  shown : r.steps.map ServerStep.shown =
    (s.registry.steps (actions moves)).map (Step.shown socket)
  registry : r.server.registry = (s.registry.run (actions moves)).1
  live : r.server.Live
  received : r.receivable = s.channel.through (s.registry.signals moves)

namespace Undisturbed

variable {rest : List Move} {r : Run}

theorem input {given : Input} {step : ServerStep} (first : Follows socket s given.action step)
    (later : Undisturbed socket step.server rest r) :
    Undisturbed socket s (.input given :: rest) { r with steps := step :: r.steps } := by
  obtain ⟨shown, registry, live, received⟩ := later
  have next : step.server.registry = (s.registry.perform given.action).registry :=
    congrArg Prod.snd first.shown
  have signals : s.registry.signals (.input given :: rest) =
      (s.registry.performInPasses given.action).answer.events.map .reported ++
        step.server.registry.signals rest := by
    rw [Registry.signals, Registry.registry_performInPasses, next]
  refine ⟨List.cons_eq_cons.mpr ⟨first.shown, ?_⟩, ?_, live, ?_⟩
  · rw [← next]
    exact shown
  · rw [next] at registry
    exact registry
  · rw [signals]
    exact received.trans (first.through _)

theorem take {event : Event} {next : Channel} (taken : s.channel.next? = some (event, next))
    (later : Undisturbed socket { s with channel := next } rest r) :
    Undisturbed socket s (.take :: rest) { r with taken := event :: r.taken } :=
  ⟨later.shown, later.registry, later.live,
    (congrArg (event :: ·) later.received).trans ((Channel.next_eq_some taken).2 _).symm⟩

theorem untaken (empty : s.channel.next? = none) (later : Undisturbed socket s rest r) :
    Undisturbed socket s (.take :: rest) r :=
  ⟨later.shown, later.registry, later.live,
    later.received.trans (Channel.through_untaken empty _).symm⟩

end Undisturbed

theorem run_undisturbed (live : s.Live) (moves : List Move) :
    Undisturbed socket s moves (s.run socket moves) := by
  -- what the channel lets through of the rest of the run carries the induction, not what it holds
  induction moves generalizing s with
  | nil => exact ⟨rfl, rfl, live, (List.append_nil _).symm⟩
  | cons move rest ih =>
    cases move with
    | input given =>
      have first : Follows socket s given.action (s.perform socket given) :=
        follows_perform live given
      exact .input first (ih first.live)
    | take =>
      rw [run, nextEvent?]
      cases taken : s.channel.next? with
      | none => exact .untaken taken (ih live)
      | some found =>
        obtain ⟨event, next⟩ := found
        have still : next.isOpen = true := (Channel.next_eq_some taken).1.trans live.opened
        exact .take taken (ih ⟨live.receiving, live.sweeping, still⟩)

/-- Servers of one registry that are given the same inputs send the same in every step and keep the same
registry, however their applications take events, and hand over what their channels had room for. -/
theorem delivery_undisturbed {t : Server} (live : s.Live) (running : t.Live)
    (same : s.registry = t.registry) {moves others : List Move}
    (inputs : moves.filterMap Move.input? = others.filterMap Move.input?) :
    let a := s.run socket moves
    let b := t.run socket others
    a.steps.map ServerStep.shown = b.steps.map ServerStep.shown ∧
      a.server.registry = b.server.registry ∧
        Undisturbed socket s moves a ∧ Undisturbed socket t others b := by
  intro a b
  have first : Undisturbed socket s moves a := run_undisturbed live moves
  have second : Undisturbed socket t others b := run_undisturbed running others
  have acts : actions moves = actions others := congrArg (List.map Input.action) inputs
  refine ⟨?_, ?_, first, second⟩
  · rw [first.shown, second.shown, same, acts]
  · rw [first.registry, second.registry, same, acts]

/-- An acknowledgment that finds the channel full is lost to the application, and nothing else is. -/
theorem delivery_undisturbed_full :
    let gateway := GatewayId.ofNumber 1
    let source : Address := ⟨"192.0.2.1:1700"⟩
    let command := DownlinkCommand.plain ⟨0x408B200000000000⟩ 14 (.fsk 50000) [1]
    let waiting := List.replicate Channel.capacity (Event.gatewayDisconnected gateway)
    let full : Server := { start .standard with channel := ⟨waiting, true⟩ }
    let inputs : List Input := [.receive [1, 0, 7, 2, 0, 0, 0, 0, 0, 0, 0, 1] source 0,
      .submit gateway command 5, .receive [1, 0, 0, 4] source 9]
    let a := full.run .datagram (inputs.map .input)
    let b := (start .standard).run .datagram (inputs.map .input ++ [.take])
    a.steps.map ServerStep.shown = b.steps.map ServerStep.shown ∧ a.receivable = waiting ∧
      b.receivable = [.downlinkAcked gateway ⟨0⟩] := by
  intro gateway source command waiting full inputs a b
  have live : full.Live := ⟨rfl, rfl, rfl⟩
  have inputs_same : (inputs.map Move.input).filterMap Move.input? =
    (inputs.map Move.input ++ [Move.take]).filterMap Move.input? := rfl
  obtain ⟨shown, -, first, second⟩ :=
    @delivery_undisturbed .datagram full _ live (live_start .standard) rfl _ _ inputs_same
  refine ⟨shown, first.received.trans ?_, second.received.trans ?_⟩
  · decide +kernel
  · decide +kernel

end Server

end GatewayLink
