import Mathlib.Data.List.Induction
import GatewayLink.Proofs.Registry.Ledger

/-! What the steps of a run say of the registry it ends with.
A session lives from the request that opens it to the step that closes it, an eviction or a shutdown. While
it lives, an address belongs to the gateway whose request came from it last, and downlinks go where the last
keep-alive of the session came from. -/

namespace GatewayLink

def Action.keepAlive? (action : Action) : Option (GatewayId × Address) :=
  action.heard?.bind fun (p, source, _) =>
    if p.kind = .pullData then p.gateway.map fun gateway => (gateway, source) else none

theorem Action.request?_of_keepAlive {action : Action} {asked : GatewayId × Address}
    (keepsAlive : action.keepAlive? = some asked) : action.request? = some asked := by
  obtain ⟨⟨p, source, now⟩, brought, keepsAlive⟩ := Option.bind_eq_some_iff.mp keepsAlive
  dsimp only at keepsAlive
  split at keepsAlive
  · next kind =>
    obtain ⟨gateway, own, rfl⟩ := Option.map_eq_some_iff.mp keepsAlive
    exact request?_of_names brought (by rw [kind]; rfl) own
  · cases keepsAlive

def Step.closes (s : Step) (gateway : GatewayId) : Bool :=
  (s.before.session? gateway).isSome && (s.after.session? gateway).isNone

def Step.asks (address : Address) (gateway : GatewayId) (s : Step) : Prop :=
  s.action.request? = some (gateway, address)

def Step.keepsAlive (gateway : GatewayId) (address : Address) (s : Step) : Prop :=
  s.action.keepAlive? = some (gateway, address)

/-- The latest of some steps with a mark is marked with a value, and no step since has closed the session
of a gateway. -/
def Latest {α : Type} (gateway : GatewayId) (mark : α → Step → Prop) (value : α)
    (steps : List Step) : Prop :=
  ∃ front s back, steps = front ++ s :: back ∧ mark value s ∧
    ∀ later ∈ back, (∀ other, ¬ mark other later) ∧ later.closes gateway = false

section

variable {α : Type} {gateway : GatewayId} {mark : α → Step → Prop} {value : α}

theorem not_latest_nil : ¬ Latest gateway mark value [] := by
  rintro ⟨front, s, back, split, -⟩
  exact List.append_ne_nil_of_right_ne_nil front (List.cons_ne_nil s back) split.symm

theorem Latest.exists_marked {steps : List Step} (latest : Latest gateway mark value steps) :
    ∃ s ∈ steps, mark value s := by
  obtain ⟨front, s, back, rfl, marked, -⟩ := latest
  exact ⟨s, by simp, marked⟩

theorem Latest.after {steps : List Step} (latest : Latest gateway mark value steps)
    (earlier : List Step) : Latest gateway mark value (earlier ++ steps) := by
  obtain ⟨front, s, back, rfl, unchanged⟩ := latest
  exact ⟨earlier ++ front, s, back, by rw [List.append_assoc], unchanged⟩

theorem latest_concat {steps : List Step} {s : Step} :
    Latest gateway mark value (steps ++ [s]) ↔
      mark value s ∨
        (∀ other, ¬ mark other s) ∧ s.closes gateway = false ∧ Latest gateway mark value steps := by
  constructor
  · rintro ⟨front, marked, back, split, here, unchanged⟩
    -- either nothing came after the latest mark, so that it is on the new step, or the new step did
    rcases List.eq_nil_or_concat back with rfl | ⟨between, last, rfl⟩
    · obtain ⟨-, same⟩ := List.append_inj' split rfl
      cases same
      exact .inl here
    · rw [List.concat_eq_append] at split unchanged
      rw [← List.cons_append, ← List.append_assoc] at split
      obtain ⟨earlier, same⟩ := List.append_inj' split rfl
      cases same
      obtain ⟨unmarked, kept⟩ := unchanged s (by simp)
      refine .inr ⟨unmarked, kept, front, marked, between, earlier, here, fun later member => ?_⟩
      exact unchanged later (List.mem_append_left _ member)
  · rintro (here | ⟨unmarked, kept, front, marked, back, rfl, there, unchanged⟩)
    · exact ⟨steps, s, [], rfl, here, List.forall_mem_nil _⟩
    · refine ⟨front, marked, back ++ [s], by simp, there, fun later member => ?_⟩
      rcases List.mem_append.mp member with between | last
      · exact unchanged later between
      · rw [List.mem_singleton.mp last]
        exact ⟨unmarked, kept⟩

theorem Latest.unique {other : α} {steps : List Step}
    (marks : ∀ s, mark value s → mark other s → value = other)
    (latest : Latest gateway mark value steps) (also : Latest gateway mark other steps) :
    value = other := by
  induction steps using List.reverseRecOn with
  | nil => exact absurd latest not_latest_nil
  | append_singleton steps s ih =>
    rcases latest_concat.mp latest with here | ⟨unmarked, -, before⟩
    · rcases latest_concat.mp also with here' | ⟨unmarked', -, -⟩
      · exact marks s here here'
      · exact absurd here (unmarked' value)
    · rcases latest_concat.mp also with here' | ⟨-, -, before'⟩
      · exact absurd here' (unmarked other)
      · exact ih before before'

end

namespace Share

variable {policy : Policy} {gateway : GatewayId} {action : Action} {sh next : Share}

def route? (sh : Share) : Option Address := sh.session.bind Session.route

def Live (sh : Share) : Prop := ∀ address, sh.owns address = true → sh.session.isSome = true

def loses (sh next : Share) : Bool := sh.session.isSome && next.session.isNone

theorem route?_sessionAt (sh : Share) (now : Instant) :
    (sh.sessionAt now).route = sh.route? := by
  cases found : sh.session <;> simp [sessionAt, route?, found, Session.start]

theorem live_closed : closed.Live := nofun

namespace Change

theorem ends_of_loses (change : Change policy gateway action sh next)
    (lost : sh.loses next = true) :
    action = .shutdown ∨
      ∃ now s, action = .sweep now ∧ sh.session = some s ∧ s.isIdle policy now = true := by
  have stays (same : next.session = sh.session) : sh.loses next = false := by
    rw [loses, same]
    cases sh.session <;> rfl
  cases change with
  | closed ends => exact ends
  | yielded _ _ _ _ => exact absurd lost (by rw [stays rfl]; exact Bool.false_ne_true)
  | kept _ => exact absurd lost (by rw [stays rfl]; exact Bool.false_ne_true)
  | _ => simp [loses] at lost

theorem live (change : Change policy gateway action sh next) (live : sh.Live) : next.Live := by
  intro address owned
  cases change with
  | pushed _ _ _ _ _ _ => rfl
  | pulled _ _ _ _ _ _ => rfl
  | yielded other source _ _ =>
    rw [owns_claim] at owned
    split at owned
    · cases owned
    · exact live address owned
  | acknowledged _ _ _ _ _ _ _ _ => rfl
  | submitted _ _ _ _ _ => rfl
  | released _ _ _ _ => rfl
  | expired _ _ _ _ _ => rfl
  | closed _ => cases owned
  | kept _ => exact live address owned

theorem owns (change : Change policy gateway action sh next) (live : sh.Live) (address : Address) :
    next.owns address = true ↔
      action.request? = some (gateway, address) ∨
        (∀ other, action.request? ≠ some (other, address)) ∧ sh.loses next = false ∧
          sh.owns address = true := by
  cases change with
  | pushed p source now brought kind own =>
    have request := Action.request?_of_names brought (by rw [kind]; rfl) own
    by_cases here : source = address <;> simp [request, here, loses]
  | pulled p source now brought kind own =>
    have request := Action.request?_of_names brought (by rw [kind]; rfl) own
    by_cases here : source = address <;> simp [request, here, loses]
  | yielded other source request foreign =>
    by_cases here : source = address <;> simp [request, here, foreign, loses]
  | acknowledged p source now s brought kind _ _ =>
    simp [Action.request?_of_ack brought kind, loses]
  | submitted s command now submits _ => simp [submits, Action.request?, Action.heard?, loses]
  | released s token cancels _ => simp [cancels, Action.request?, Action.heard?, loses]
  | expired s now sweeps _ _ => simp [sweeps, Action.request?, Action.heard?, loses]
  | closed ends =>
    have unrequested : action.request? = none := by
      rcases ends with rfl | ⟨now, s, rfl, -, -⟩ <;> rfl
    -- what belongs to a gateway is lost with its session, for without one it has nothing
    have lost (owned : sh.owns address = true) : sh.loses Share.closed = true := by
      simp [loses, Share.closed, live address owned]
    simp only [unrequested]
    constructor
    · intro owned
      cases owned
    · rintro (asked | ⟨-, kept, owned⟩)
      · cases asked
      · rw [lost owned] at kept
        cases kept
  | kept unrequested => simp [unrequested, loses]

theorem route? (change : Change policy gateway action sh next) (address : Address) :
    next.route? = some address ↔
      action.keepAlive? = some (gateway, address) ∨
        (∀ other, action.keepAlive? ≠ some (gateway, other)) ∧ sh.loses next = false ∧
          sh.route? = some address := by
  have unmarked (unasked : ∀ other, action.request? ≠ some (gateway, other)) (other : Address) :
      action.keepAlive? ≠ some (gateway, other) :=
    fun keepsAlive => unasked other (Action.request?_of_keepAlive keepsAlive)
  cases change with
  | pushed p source now brought kind own =>
    have same : ((sh.withSession ((sh.sessionAt now).touch now)).claim source true).route? =
        sh.route? := route?_sessionAt sh now
    simp [Action.keepAlive?, brought, kind, loses, same]
  | pulled p source now brought kind own =>
    simp [Action.keepAlive?, brought, kind, own, loses, Share.route?]
  | yielded other source request foreign =>
    have elsewhere := unmarked fun address asked => by
      rw [request] at asked
      cases asked
      exact foreign rfl
    simp [elsewhere, loses, Share.route?]
  | acknowledged p source now s brought kind _ found =>
    have elsewhere := unmarked (by simp [Action.request?_of_ack brought kind])
    simp [elsewhere, loses, Share.route?, found, Session.route_acknowledged]
  | submitted s command now submits found =>
    have elsewhere := unmarked (by simp [submits, Action.request?, Action.heard?])
    simp [elsewhere, loses, Share.route?, found, Session.route_submitted]
  | released s token cancels found =>
    have elsewhere := unmarked (by simp [cancels, Action.request?, Action.heard?])
    simp [elsewhere, loses, Share.route?, found, Session.release]
  | expired s now sweeps found _ =>
    have elsewhere := unmarked (by simp [sweeps, Action.request?, Action.heard?])
    simp [elsewhere, loses, Share.route?, found, Session.expire]
  | closed ends =>
    have unrequested : action.request? = none := by
      rcases ends with rfl | ⟨now, s, rfl, -, -⟩ <;> rfl
    have elsewhere := unmarked (by simp [unrequested])
    cases found : sh.session <;> simp [elsewhere, loses, Share.route?, Share.closed, found]
  | kept unrequested =>
    have elsewhere := unmarked (by simp [unrequested])
    simp [elsewhere, loses]

end Change

end Share

namespace Step

variable (s : Step) (gateway : GatewayId)

theorem change :
    Share.Change s.before.policy gateway s.action (s.before.share gateway)
      (s.after.share gateway) :=
  s.before.change_perform gateway s.action

theorem closes_iff :
    s.closes gateway = true ↔
      (s.before.session? gateway).isSome = true ∧
        (s.action = .shutdown ∨
          ∃ now, s.action = .sweep now ∧ s.before.evicts now gateway = true) := by
  constructor
  · intro ended
    have active : (s.before.session? gateway).isSome = true :=
      ((Bool.and_eq_true _ _).mp ended).1
    refine ⟨active, (s.change gateway).ends_of_loses ended |>.imp_right ?_⟩
    rintro ⟨now, session, swept, found, idle⟩
    have found : s.before.session? gateway = some session := found
    exact ⟨now, swept, by rw [Registry.evicts, found]; exact idle⟩
  · rintro ⟨active, ends⟩
    have gone : s.after.session? gateway = none := by
      rcases ends with shut | ⟨now, swept, evicted⟩
      · rw [after, outcome, shut]
        exact Registry.session?_empty gateway s.before.policy
      · rw [after, outcome, swept]
        refine (Registry.session?_sweep s.before gateway now).trans ?_
        obtain ⟨session, found⟩ := Option.isSome_iff_exists.mp active
        rw [Registry.evicts, found] at evicted
        rw [found, Option.bind_some, if_pos evicted]
    rw [closes, active, gone]
    rfl

end Step

namespace Registry

variable (policy : Policy) (actions : List Action) (gateway : GatewayId) (address : Address)

theorem steps_concat (r : Registry) (action : Action) :
    r.steps (actions ++ [action]) = r.steps actions ++ [⟨(r.run actions).1, action⟩] := by
  rw [steps_append]
  rfl

theorem run_concat (r : Registry) (action : Action) :
    (r.run (actions ++ [action])).1 = ((r.run actions).1.perform action).registry := by
  rw [run_append_registry]
  rfl

theorem owns_share (r : Registry) :
    (r.share gateway).owns address = true ↔ r.peers[address]? = some gateway :=
  decide_eq_true_iff

theorem live_run : (((empty policy).run actions).1.share gateway).Live := by
  induction actions using List.reverseRecOn with
  | nil =>
    rw [run, share_empty]
    exact Share.live_closed
  | append_singleton actions action ih =>
    rw [run_concat]
    exact (Step.change ⟨_, action⟩ gateway).live ih

theorem isSome_of_owned {policy : Policy} {actions : List Action} {gateway : GatewayId}
    {address : Address} (owned : ((empty policy).run actions).1.peers[address]? = some gateway) :
    (((empty policy).run actions).1.session? gateway).isSome = true :=
  live_run policy actions gateway address ((owns_share gateway address _).mpr owned)

theorem route_of_sent {r : Registry} {gateway : GatewayId} {command : DownlinkCommand}
    {now : Instant} {out : Outbound} (sent : (r.send gateway command now).answer = .ok out) :
    (r.session? gateway).bind Session.route = some out.address := by
  obtain ⟨session, issued, found, chosen, -⟩ := exists_of_send_eq_ok now command sent
  rw [found]
  exact (Session.issue?_free chosen).2

theorem latest_run {α : Type} {mark : α → Step → Prop} {value : α} (holds : Registry → Prop)
    (opening : ¬ holds (empty policy))
    (step : ∀ actions action, let s : Step := ⟨((empty policy).run actions).1, action⟩
      holds s.after ↔
        mark value s ∨
          (∀ other, ¬ mark other s) ∧ s.closes gateway = false ∧ holds s.before) :
    holds ((empty policy).run actions).1 ↔
      Latest gateway mark value ((empty policy).steps actions) := by
  induction actions using List.reverseRecOn with
  | nil => exact iff_of_false opening not_latest_nil
  | append_singleton actions action ih =>
    rw [run_concat, steps_concat, latest_concat, ← ih]
    exact step actions action

/-- An address belongs to the gateway of the last request from it, if that has not been closed since. -/
theorem peers_eq_some_iff :
    ((empty policy).run actions).1.peers[address]? = some gateway ↔
      Latest gateway (Step.asks address) gateway ((empty policy).steps actions) := by
  refine latest_run policy actions gateway (fun r => r.peers[address]? = some gateway)
    ?_ fun actions action => ?_
  · simp [empty]
  · have law := (Step.change ⟨_, action⟩ gateway).owns (live_run policy actions gateway) address
    rwa [owns_share, owns_share] at law

theorem route_eq_some_iff :
    (((empty policy).run actions).1.session? gateway).bind Session.route = some address ↔
      Latest gateway (Step.keepsAlive gateway) address ((empty policy).steps actions) := by
  refine latest_run policy actions gateway
    (fun r => (r.session? gateway).bind Session.route = some address)
    ?_ fun actions action => ?_
  · simp
  · exact (Step.change ⟨_, action⟩ gateway).route? address

end Registry

end GatewayLink
