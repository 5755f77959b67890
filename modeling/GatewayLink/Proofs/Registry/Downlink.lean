import Mathlib.Data.List.Count
import GatewayLink.Proofs.Registry.Share

/-! What the operations of a session do to one downlink.
A downlink is outstanding under a token, and the lemmas say what is outstanding under each token after an
operation. They also count the events and list the packets that concern the token. -/

namespace GatewayLink

theorem Pending.fate_cases (p : Pending) (policy : Policy) (route : Option Address)
    (now : Instant) :
    (now < p.deadline ∧ p.fate policy route now = .waits) ∨
      (p.deadline ≤ now ∧ (route = none ∨ policy.maxRetries.toNat ≤ p.retries) ∧
        p.fate policy route now = .fails) ∨
      ∃ address, p.deadline ≤ now ∧ route = some address ∧
        p.retries < policy.maxRetries.toNat ∧ p.fate policy route now =
          .retried address { p with
            retries := p.retries + 1, deadline := now + policy.ackTimeout.toNat } := by
  by_cases due : p.deadline ≤ now
  · cases route with
    | none => exact .inr (.inl ⟨due, .inl rfl, by simp [fate, due]⟩)
    | some address =>
      by_cases left : p.retries < policy.maxRetries.toNat
      · exact .inr (.inr ⟨address, due, rfl, left, by simp [fate, due, left, Policy.deadline]⟩)
      · exact .inr (.inl ⟨due, .inr (Nat.le_of_not_lt left), by simp [fate, due, left]⟩)
  · exact .inl ⟨Nat.lt_of_not_le due, by simp [fate, due]⟩

namespace Session

variable (policy : Policy) (now : Instant) (token other : Token) (s : Session)

theorem pending_acknowledged :
    (s.acknowledged token now).pending[other]? =
      if token = other then none else s.pending[other]? := by
  unfold acknowledged
  split
  · simp [release, touch, Std.ExtTreeMap.getElem?_erase]
  · next free =>
    split
    · next same =>
      subst same
      exact Std.ExtTreeMap.getElem?_eq_none_of_contains_eq_false (Bool.not_eq_true _ ▸ free)
    · rfl

theorem pending_release :
    (s.release token).pending[other]? = if token = other then none else s.pending[other]? := by
  simp [release, Std.ExtTreeMap.getElem?_erase]

theorem allocate?_free {s next : Session} {token : Token}
    (taken : s.allocate? = some (token, next)) :
    s.pending.contains token = false ∧ next.pending = s.pending := by
  simp only [allocate?, Option.map_eq_some_iff, Prod.mk.injEq] at taken
  obtain ⟨number, found, rfl, rfl⟩ := taken
  exact ⟨firstFree_free found, rfl⟩

theorem issue?_free {s : Session} {command : DownlinkCommand} {token : Token} {route : Address}
    (issued : s.issue? command = some (token, route)) :
    s.pending[token]? = none ∧ s.route = some route := by
  unfold issue? at issued
  split at issued
  · next routed taken =>
    split at issued
    · cases issued
      refine ⟨?_, routed⟩
      exact Std.ExtTreeMap.getElem?_eq_none_of_contains_eq_false (allocate?_free taken).1
    · cases issued
  · cases issued

theorem pending_submitted (command : DownlinkCommand) :
    (s.submitted policy command now).pending[other]? =
      if (s.issue? command).map Prod.fst = some other then
        some ⟨Packet.pullResp other command, now + policy.ackTimeout.toNat, 0⟩
      else s.pending[other]? := by
  unfold submitted issue?
  cases s.route with
  | none => simp
  | some route =>
    cases taken : s.allocate? with
    | none => simp
    | some entry =>
      obtain ⟨issued, next⟩ := entry
      have kept := (allocate?_free taken).2
      obtain ⟨verdict, checked⟩ : ∃ verdict, (Packet.pullResp issued command).check = verdict :=
        ⟨_, rfl⟩
      simp only [checked]
      cases verdict with
      | error fault => simp [kept]
      | ok _ =>
        by_cases same : issued = other
        · subst same
          simp [hold]
        · simp [hold, kept, Std.ExtTreeMap.getElem?_insert, same]

theorem pending_expire :
    (s.expire policy now).pending[token]? =
      s.pending[token]?.bind fun p => (p.fate policy s.route now).kept p := by
  simp only [expire]
  rw [Std.ExtTreeMap.getElem?_filterMap']

theorem mem_outstanding : token ∈ s.outstanding ↔ s.pending[token]?.isSome := by
  simp [outstanding]

theorem count_outstanding :
    s.outstanding.count token = if s.pending[token]?.isSome then 1 else 0 := by
  rw [List.Nodup.count (show s.outstanding.Nodup from s.pending.nodup_keys)]
  simp only [mem_outstanding]

theorem failures_sublist : (s.failures policy now).Sublist s.outstanding := by
  have chosen : s.failures policy now =
      (s.pending.toList.filter fun entry =>
        (entry.2.fate policy s.route now).isFailure).map Prod.fst := by
    rw [failures, fates, List.filterMap_map, ← List.filterMap_eq_map, List.filterMap_filter]
    rfl
  rw [chosen, outstanding, ← Std.ExtTreeMap.map_fst_toList_eq_keys]
  exact List.filter_sublist.map Prod.fst

theorem mem_failures :
    token ∈ s.failures policy now ↔
      ∃ p, s.pending[token]? = some p ∧ (p.fate policy s.route now).isFailure = true := by
  simp only [failures, fates, List.mem_filterMap, List.mem_map, Prod.exists,
    Std.ExtTreeMap.mem_toList_iff_getElem?_eq_some, Prod.mk.injEq]
  constructor
  · rintro ⟨t, fate, ⟨t', p, found, rfl, rfl⟩, chosen⟩
    split at chosen
    · next fails =>
      cases chosen
      exact ⟨p, found, fails⟩
    · cases chosen
  · rintro ⟨p, found, fails⟩
    exact ⟨token, _, ⟨token, p, found, rfl, rfl⟩, if_pos fails⟩

theorem count_failures :
    (s.failures policy now).count token =
      if s.pending[token]?.any fun p => (p.fate policy s.route now).isFailure then 1 else 0 := by
  rw [List.Nodup.count ((failures_sublist policy now s).nodup s.pending.nodup_keys)]
  have decided := mem_failures policy now token s
  cases found : s.pending[token]? <;> simp_all

end Session

namespace Registry

variable (r : Registry) (gateway : GatewayId) (token : Token) (now : Instant)

/-- The downlink that is outstanding for a gateway under a token. -/
def downlink? (r : Registry) (gateway : GatewayId) (token : Token) : Option Pending :=
  (r.session? gateway).bind fun s => s.pending[token]?

def isOutstanding (r : Registry) (gateway : GatewayId) (token : Token) : Bool :=
  (r.downlink? gateway token).isSome

def resends (r : Registry) (now : Instant) (gateway : GatewayId) (token : Token) : List Outbound :=
  match r.session? gateway with
  | some s =>
    if s.isIdle r.policy now then []
    else
      match s.pending[token]? with
      | some p => (p.fate r.policy s.route now).outbound?.toList
      | none => []
  | none => []

theorem retransmissions_eq_resends :
    (r.sweep now).answer.retransmissions =
      r.sessions.toList.flatMap fun (g, s) => s.outstanding.flatMap fun t => r.resends now g t := by
  simp only [sweep]
  refine List.flatMap_congr ?_
  rintro ⟨g, s⟩ member
  have found : r.session? g = some s := Std.ExtTreeMap.mem_toList_iff_getElem?_eq_some.mp member
  simp only [sweepRetransmissions, resends, found]
  split
  · simp
  · rw [Session.retransmissions, Session.fates, List.filterMap_map,
      List.filterMap_eq_flatMap_toList, Session.outstanding,
      ← Std.ExtTreeMap.map_fst_toList_eq_keys, List.flatMap_map]
    refine List.flatMap_congr ?_
    rintro ⟨t, p⟩ there
    simp [Std.ExtTreeMap.mem_toList_iff_getElem?_eq_some.mp there]

theorem failed_injective : Function.Injective (Event.downlinkFailed gateway) :=
  fun _ _ same => by cases same; rfl

theorem count_failed_closingEvents (s : Session) :
    (closingEvents gateway s).count (.downlinkFailed gateway token) =
      if s.pending[token]?.isSome then 1 else 0 := by
  rw [closingEvents, List.count_append,
    List.count_map_of_injective _ _ (failed_injective gateway), Session.count_outstanding]
  simp

theorem count_failed_failures (policy : Policy) (s : Session) :
    ((s.failures policy now).map (Event.downlinkFailed gateway)).count
        (.downlinkFailed gateway token) =
      if s.pending[token]?.any fun p => (p.fate policy s.route now).isFailure then 1 else 0 := by
  rw [List.count_map_of_injective _ _ (failed_injective gateway), Session.count_failures]

theorem count_acked_sweepEvents (policy : Policy) (s : Session) :
    (sweepEvents policy now gateway s).count (.downlinkAcked gateway token) = 0 := by
  rw [List.count_eq_zero]
  intro member
  simp only [sweepEvents, closingEvents] at member
  split at member <;> simp at member

theorem count_acked_closingEvents (s : Session) :
    (closingEvents gateway s).count (.downlinkAcked gateway token) = 0 := by
  rw [List.count_eq_zero]
  simp [closingEvents]

theorem count_bodyEvents (body : Option Body) :
    (bodyEvents gateway body).count (.downlinkAcked gateway token) = 0 ∧
      (bodyEvents gateway body).count (.downlinkFailed gateway token) = 0 := by
  simp only [List.count_eq_zero]
  cases body <;> simp [bodyEvents]

theorem count_events (action : Action) (event : Event) (own : event.gateway = gateway) :
    (r.perform action).answer.events.count event =
      ((r.share gateway).react r.policy gateway action).events.count event := by
  rw [← events_perform, List.count_filter (by simpa using own)]

end Registry

end GatewayLink
