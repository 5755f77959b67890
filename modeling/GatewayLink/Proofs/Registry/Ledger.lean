import GatewayLink.Proofs.Registry.Step

/-! The ledger of downlinks.
Along any run, the acceptances of a gateway's downlinks under a token are balanced by their ends: each is
acknowledged, failed or withdrawn once, or still outstanding. The instants of a run need not increase. -/

namespace GatewayLink

namespace Registry

def steps (r : Registry) : List Action → List Step
  | [] => []
  | action :: rest => ⟨r, action⟩ :: (r.perform action).registry.steps rest

theorem steps_append (r : Registry) (front back : List Action) :
    r.steps (front ++ back) = r.steps front ++ (r.run front).1.steps back := by
  induction front generalizing r with
  | nil => rfl
  | cons action rest ih => simp [steps, ih, run_cons]

theorem run_registry_cons (r : Registry) (action : Action) (rest : List Action) :
    (r.run (action :: rest)).1 = ((r.perform action).registry.run rest).1 := rfl

def held (r : Registry) (gateway : GatewayId) (token : Token) : Nat :=
  if r.isOutstanding gateway token then 1 else 0

theorem held_of_none {r : Registry} {gateway : GatewayId} {token : Token}
    (free : r.downlink? gateway token = none) : r.held gateway token = 0 := by
  simp [held, isOutstanding, free]

theorem held_of_some {r : Registry} {gateway : GatewayId} {token : Token} {p : Pending}
    (outstanding : r.downlink? gateway token = some p) : r.held gateway token = 1 := by
  simp [held, isOutstanding, outstanding]

end Registry

namespace Step

open Registry

variable (s : Step) (gateway : GatewayId) (token : Token)

theorem balance :
    (s.marks gateway token).accepted + s.before.held gateway token =
      (s.marks gateway token).endings + s.after.held gateway token := by
  cases s.turn gateway token with
  | nothing same marks _ =>
    rw [marks, held, held, isOutstanding, isOutstanding, same]
    rfl
  | accepted _ _ _ free held _ marks => rw [marks, held_of_none free, held_of_some held]; rfl
  | acked p held gone marks => rw [marks, held_of_none gone, held_of_some held]; rfl
  | withdrawn p held gone marks => rw [marks, held_of_none gone, held_of_some held]; rfl
  | retried p _ _ _ _ held _ _ _ _ next marks =>
    rw [marks, held_of_some held, held_of_some next]
    rfl
  | failed p _ _ _ held _ _ _ gone marks => rw [marks, held_of_none gone, held_of_some held]; rfl
  | closed p held _ gone marks => rw [marks, held_of_none gone, held_of_some held]; rfl

/-- A step ends a downlink at most once, and only one that was outstanding. -/
theorem endings_le_held :
    (s.marks gateway token).endings ≤ s.before.held gateway token := by
  cases s.turn gateway token with
  | nothing _ marks _ => rw [marks]; exact Nat.zero_le _
  | accepted _ _ _ _ _ _ marks => rw [marks]; exact Nat.zero_le _
  | acked p held _ marks => rw [marks, held_of_some held]; exact Nat.le_refl 1
  | withdrawn p held _ marks => rw [marks, held_of_some held]; exact Nat.le_refl 1
  | retried p _ _ _ _ _ _ _ _ _ _ marks => rw [marks]; exact Nat.zero_le _
  | failed p _ _ _ held _ _ _ _ marks => rw [marks, held_of_some held]; exact Nat.le_refl 1
  | closed p held _ _ marks => rw [marks, held_of_some held]; exact Nat.le_refl 1

end Step

namespace Registry

variable (gateway : GatewayId) (token : Token)

theorem run_balance (r : Registry) (actions : List Action) :
    (r.steps actions).countP (·.accepts gateway token) + r.held gateway token =
      ((r.steps actions).flatMap Step.events).count (.downlinkAcked gateway token) +
        ((r.steps actions).flatMap Step.events).count (.downlinkFailed gateway token) +
        (r.steps actions).countP (·.withdraws gateway token) +
        (r.run actions).1.held gateway token := by
  -- the balances of the single steps, added up for whatever registry the run starts from
  induction actions generalizing r with
  | nil => simp [steps, run]
  | cons action rest ih =>
    have rest_balance := ih (r.perform action).registry
    have step_balance := Step.balance ⟨r, action⟩ gateway token
    have counted (b : Bool) : b.toNat = if b = true then 1 else 0 := by cases b <;> rfl
    simp only [Step.marks, Marks.endings, Step.after, Step.outcome, counted] at step_balance
    simp only [steps, List.countP_cons, List.flatMap_cons, List.count_append, run_registry_cons]
    omega

/-- Acceptances less acknowledgments, failures and withdrawals count what is outstanding, and no step ends
a downlink twice or one that is not outstanding. -/
theorem downlinks_balance (policy : Policy) (actions : List Action) :
    let steps := (empty policy).steps actions
    let events := steps.flatMap Step.events
    let last := ((empty policy).run actions).1
    (steps.countP (·.accepts gateway token) : Int) - events.count (.downlinkAcked gateway token) -
        events.count (.downlinkFailed gateway token) -
        steps.countP (·.withdraws gateway token) =
      (if last.isOutstanding gateway token then 1 else 0) ∧
    ∀ step ∈ steps, (step.marks gateway token).endings ≤
      if step.before.isOutstanding gateway token then 1 else 0 := by
  intro steps events last
  have opening : (empty policy).held gateway token = 0 := held_of_none rfl
  have balance : steps.countP (·.accepts gateway token) + (empty policy).held gateway token =
      events.count (.downlinkAcked gateway token) + events.count (.downlinkFailed gateway token) +
        steps.countP (·.withdraws gateway token) + last.held gateway token :=
    run_balance gateway token (empty policy) actions
  refine ⟨?_, fun step _ => step.endings_le_held gateway token⟩
  rw [opening, held] at balance
  split at balance
  · next outstanding =>
    rw [if_pos outstanding]
    omega
  · next gone =>
    rw [if_neg gone]
    omega

end Registry

end GatewayLink
