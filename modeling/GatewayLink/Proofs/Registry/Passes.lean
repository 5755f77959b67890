import Mathlib.Data.List.Perm.Basic
import GatewayLink.Session.Passes
import GatewayLink.Proofs.Registry.History

/-! What the passes of a sweep amount to.
A visit changes what belongs to its key, and nothing else; so a walk over different keys makes of each what
its own visit makes of it alone. The two passes together then give every gateway one treatment, which is the
one of `Registry.sweep`; they only tell of idle gateways after all others. -/

namespace GatewayLink

theorem flatMap_filter {α β : Type} (l : List α) (p : α → Bool) (f : α → List β) :
    (l.filter p).flatMap f = l.flatMap fun a => if p a then f a else [] := by
  induction l with
  | nil => rfl
  | cons a rest ih =>
    rw [List.filter_cons, List.flatMap_cons, ← ih]
    cases p a <;> rfl

section

variable {σ κ ω ι : Type} {visit : κ → σ → σ × List ω} {get : σ → κ → ι} {becomes : κ → ι → ι}
  {finds : κ → ι → List ω}

/-- A visit sees and changes only what belongs to its key. -/
structure Visits (visit : κ → σ → σ × List ω) (get : σ → κ → ι) (becomes : κ → ι → ι)
    (finds : κ → ι → List ω) : Prop where
  own : ∀ k s, get (visit k s).1 k = becomes k (get s k)
  others : ∀ k s other, k ≠ other → get (visit k s).1 other = get s other
  found : ∀ k s, (visit k s).2 = finds k (get s k)

theorem Visits.passed (visits : Visits visit get becomes finds) {keys : List κ} {other : κ}
    (absent : other ∉ keys) (s : σ) : get (walk visit keys s).1 other = get s other := by
  induction keys generalizing s with
  | nil => rfl
  | cons k rest ih =>
    rw [List.mem_cons, not_or] at absent
    rw [walk, ih absent.2, visits.others k s other (Ne.symm absent.1)]

theorem Visits.visited (visits : Visits visit get becomes finds) {keys : List κ}
    (distinct : keys.Nodup) {k : κ} (member : k ∈ keys) (s : σ) :
    get (walk visit keys s).1 k = becomes k (get s k) := by
  induction keys generalizing s with
  | nil => cases member
  | cons first rest ih =>
    obtain ⟨absent, distinct⟩ := List.nodup_cons.mp distinct
    rw [walk]
    rcases List.mem_cons.mp member with rfl | later
    · rw [visits.passed absent, visits.own]
    · have apart : first ≠ k := fun same => absent (same ▸ later)
      rw [ih distinct later, visits.others first s k apart]

theorem Visits.walked (visits : Visits visit get becomes finds) {keys : List κ}
    (distinct : keys.Nodup) (s : σ) :
    (walk visit keys s).2 = keys.flatMap fun k => finds k (get s k) := by
  induction keys generalizing s with
  | nil => rfl
  | cons first rest ih =>
    obtain ⟨absent, distinct⟩ := List.nodup_cons.mp distinct
    rw [walk, List.flatMap_cons, visits.found, ih distinct]
    refine congrArg (finds first (get s first) ++ ·) ?_
    refine List.flatMap_congr fun k later => ?_
    have apart : first ≠ k := fun same => absent (same ▸ later)
    rw [visits.others first s k apart]

end

def Fate.findings (gateway : GatewayId) (token : Token) : Fate → List Finding
  | waits => []
  | retried route next => [.noticed (.retried token gateway), .resent ⟨route, next.packet⟩]
  | fails => [.noticed (.abandoned token gateway), .reported (.downlinkFailed gateway token)]

theorem Pending.fate_of_due {p : Pending} {now : Instant} (due : p.deadline ≤ now)
    (policy : Policy) (route : Option Address) :
    p.fate policy route now =
      match policy.retry? now route (some p) with
      | some (address, next) => .retried address next
      | none => .fails := by
  unfold fate
  rw [if_pos due]
  cases route with
  | none => rfl
  | some address =>
    simp only [Policy.retry?]
    split <;> rfl

theorem Pending.fate_of_early {p : Pending} {now : Instant} (early : ¬ p.deadline ≤ now)
    (policy : Policy) (route : Option Address) : p.fate policy route now = .waits :=
  if_neg early

namespace Session

variable (policy : Policy) (now : Instant) (gateway : GatewayId) (s : Session)

def bare (s : Session) : Session := { s with pending := ∅ }

theorem ext_downlinks {s t : Session}
    (same : ∀ token : Token, (s.bare, s.pending[token]?) = (t.bare, t.pending[token]?)) : s = t := by
  have rest : s.bare = t.bare := congrArg Prod.fst (same ⟨0⟩)
  have pending : s.pending = t.pending :=
    Std.ExtTreeMap.ext_getElem? fun {token} => congrArg Prod.snd (same token)
  cases s; cases t
  simp_all [bare]

theorem visits_settle :
    Visits (settle policy now gateway) (fun s token => (s.bare, s.pending[token]?))
      (fun _ (rest, p) => (rest, (policy.retry? now rest.route p).map Prod.snd))
      (fun token (rest, p) =>
        match policy.retry? now rest.route p with
        | some (route, next) => (Fate.retried route next).findings gateway token
        | none => Fate.fails.findings gateway token) where
  own token s := by
    dsimp only [bare]
    rw [settle]
    cases policy.retry? now s.route s.pending[token]? with
    | none => simp [release]
    | some again => simp [hold]
  others token s other apart := by
    dsimp only [bare]
    rw [settle]
    cases policy.retry? now s.route s.pending[token]? with
    | none => simp [release, Std.ExtTreeMap.getElem?_erase, apart]
    | some again => simp [hold, Std.ExtTreeMap.getElem?_insert, apart]
  found token s := by
    dsimp only [bare]
    rw [settle]
    cases policy.retry? now s.route s.pending[token]? <;> rfl

theorem mem_overdue {token : Token} :
    token ∈ s.overdue now ↔ ∃ p, s.pending[token]? = some p ∧ p.deadline ≤ now := by
  simp [overdue, Std.ExtTreeMap.mem_toList_iff_getElem?_eq_some]

theorem nodup_overdue : (s.overdue now).Nodup := by
  have listed : (s.overdue now).Sublist s.outstanding := by
    rw [overdue, outstanding, ← Std.ExtTreeMap.map_fst_toList_eq_keys]
    exact List.filter_sublist.map Prod.fst
  exact listed.nodup s.pending.nodup_keys

def expiry (s : Session) (policy : Policy) (now : Instant) (gateway : GatewayId) : List Finding :=
  (s.fates policy now).flatMap fun (token, fate) => fate.findings gateway token

theorem session_expireInTurn :
    (s.expireInTurn policy now gateway).1 = s.expire policy now := by
  have visits := visits_settle policy now gateway
  refine ext_downlinks fun token => ?_
  rw [pending_expire]
  by_cases due : token ∈ s.overdue now
  · refine (visits.visited (nodup_overdue now s) due s).trans (Prod.ext rfl ?_)
    obtain ⟨p, found, due⟩ := (mem_overdue now s).mp due
    dsimp only [bare]
    rw [found, Option.bind_some, Pending.fate_of_due due]
    cases policy.retry? now s.route (some p) <;> rfl
  · refine (visits.passed due s).trans (Prod.ext rfl ?_)
    cases found : s.pending[token]? with
    | none => rfl
    | some p =>
      have early : ¬ p.deadline ≤ now := fun past => due ((mem_overdue now s).mpr ⟨p, found, past⟩)
      dsimp only
      rw [Option.bind_some, Pending.fate_of_early early]
      rfl

theorem findings_expireInTurn :
    (s.expireInTurn policy now gateway).2 = s.expiry policy now gateway := by
  have visits := visits_settle policy now gateway
  refine (visits.walked (nodup_overdue now s) s).trans ?_
  rw [overdue, List.flatMap_map, flatMap_filter, expiry, fates, List.flatMap_map]
  refine List.flatMap_congr ?_
  rintro ⟨token, p⟩ member
  have found := Std.ExtTreeMap.mem_toList_iff_getElem?_eq_some.mp member
  by_cases due : p.deadline ≤ now
  · dsimp only [bare]
    rw [found, if_pos (decide_eq_true due), Pending.fate_of_due due]
    cases policy.retry? now s.route (some p) <;> rfl
  · dsimp only
    rw [if_neg (mt of_decide_eq_true due), Pending.fate_of_early due]
    rfl

theorem filterMap_expiry {α : Type} {sort : Finding → Option α} (shown : Token → Fate → Option α)
    (each : ∀ token fate, (fate.findings gateway token).filterMap sort = (shown token fate).toList) :
    (s.expiry policy now gateway).filterMap sort =
      (s.fates policy now).filterMap fun (token, fate) => shown token fate := by
  rw [expiry, List.filterMap_flatMap, List.filterMap_eq_flatMap_toList]
  exact List.flatMap_congr fun (token, fate) _ => each token fate

end Session

namespace Share

def passed (policy : Policy) (now : Instant) (left : Share → Share) (sh : Share) : Share :=
  match sh.session with
  | none => sh
  | some s => if s.isIdle policy now then left sh else sh.withSession (s.expire policy now)

/-- What a pass finds at a gateway, if idle ones show it `shows`. -/
def findings (policy : Policy) (now : Instant) (gateway : GatewayId) (shows : Session → List Finding)
    (sh : Share) : List Finding :=
  match sh.session with
  | none => []
  | some s => if s.isIdle policy now then shows s else s.expiry policy now gateway

theorem share_sweep_eq (policy : Policy) (gateway : GatewayId) (now : Instant) (sh : Share) :
    (sh.sweep policy gateway now).share = sh.passed policy now fun _ => closed := by
  rw [sweep, passed]
  cases sh.session <;> rfl

end Share

namespace Registry

variable (r : Registry) (now : Instant) (gateway : GatewayId)

theorem ext_shares {a b : Registry}
    (same : ∀ gateway, (a.policy, a.share gateway) = (b.policy, b.share gateway)) : a = b := by
  have policy : a.policy = b.policy := congrArg Prod.fst (same (.ofNumber 0))
  have share (gateway) : a.share gateway = b.share gateway := congrArg Prod.snd (same gateway)
  have sessions : a.sessions = b.sessions :=
    Std.ExtTreeMap.ext_getElem? fun {gateway} => congrArg Share.session (share gateway)
  have peers : a.peers = b.peers := by
    refine Std.ExtTreeMap.ext_getElem? fun {address} => Option.ext fun gateway => ?_
    rw [← owns_share gateway address a, ← owns_share gateway address b, share]
  cases a; cases b
  simp_all

@[simp] theorem session_share : (r.share gateway).session = r.session? gateway := rfl

@[simp] theorem policy_setSession (s : Session) : (r.setSession gateway s).policy = r.policy := rfl

theorem share_setSession (s : Session) (other : GatewayId) :
    (r.setSession gateway s).share other =
      if gateway = other then (r.share other).withSession s else r.share other := by
  apply Share.ext_parts
  · simp only [share, session?_setSession]
    split <;> rfl
  · intro address
    split <;> rfl

theorem share_evict (s : Session) (other : GatewayId) :
    (evict gateway s r).1.share other = if gateway = other then Share.closed else r.share other := by
  by_cases same : gateway = other
  · subst same
    rw [if_pos rfl]
    apply Share.ext_parts
    · simp [share, session?, evict, Share.closed]
    · intro address
      simp [share, evict, Share.closed]
  · rw [if_neg same]
    apply Share.ext_parts
    · simp [share, session?, evict, Std.ExtTreeMap.getElem?_erase, same]
    · intro address
      simp [share, evict, Option.filter_eq_some_iff, Ne.symm same]

theorem expireDownlinks_eq (s : Session) :
    r.expireDownlinks now gateway s =
      (r.setSession gateway (s.expire r.policy now), s.expiry r.policy now gateway) := by
  rw [expireDownlinks, Session.session_expireInTurn, Session.findings_expireInTurn]

theorem visits_visit {whenIdle : GatewayId → Session → Registry → Registry × List Finding}
    {left : Share → Share} (shows : Policy → GatewayId → Session → List Finding)
    (policy : ∀ gateway s r, (whenIdle gateway s r).1.policy = r.policy)
    (share : ∀ gateway s r other, (whenIdle gateway s r).1.share other =
      if gateway = other then left (r.share other) else r.share other)
    (shown : ∀ gateway s r, (whenIdle gateway s r).2 = shows r.policy gateway s) :
    Visits (visit now whenIdle) (fun r gateway => (r.policy, r.share gateway))
      (fun _ (policy, sh) => (policy, sh.passed policy now left))
      (fun gateway (policy, sh) => sh.findings policy now gateway (shows policy gateway)) where
  own gateway r := by
    dsimp only
    rw [visit, Share.passed, session_share]
    cases r.session? gateway with
    | none => rfl
    | some s =>
      cases idle : s.isIdle r.policy now with
      | true => simp [idle, policy, share]
      | false => simp [idle, expireDownlinks_eq, share_setSession]
  others gateway r other apart := by
    rw [visit]
    cases r.session? gateway with
    | none => rfl
    | some s =>
      cases idle : s.isIdle r.policy now with
      | true => simp [idle, policy, share, apart]
      | false => simp [idle, expireDownlinks_eq, share_setSession, apart]
  found gateway r := by
    dsimp only
    rw [visit, Share.findings, session_share]
    cases r.session? gateway with
    | none => rfl
    | some s =>
      cases idle : s.isIdle r.policy now with
      | true => simp [idle, shown]
      | false => simp [idle, expireDownlinks_eq]

theorem visits_first :
    Visits (visit now putAside) (fun r gateway => (r.policy, r.share gateway))
      (fun _ (policy, sh) => (policy, sh.passed policy now id))
      (fun gateway (policy, sh) => sh.findings policy now gateway fun _ => [.idle gateway]) :=
  visits_visit now (fun _ gateway _ => [.idle gateway]) (fun _ _ _ => rfl)
    (fun _ _ r other => (ite_self (r.share other)).symm) fun _ _ _ => rfl

theorem visits_second :
    Visits (visit now evict) (fun r gateway => (r.policy, r.share gateway))
      (fun _ (policy, sh) => (policy, sh.passed policy now fun _ => Share.closed))
      (fun gateway (policy, sh) => sh.findings policy now gateway (closing policy gateway)) :=
  visits_visit now closing (fun _ _ _ => rfl) (fun gateway s r => r.share_evict gateway s)
    fun _ _ _ => rfl

theorem mem_keys : gateway ∈ r.sessions.keys ↔ (r.session? gateway).isSome = true := by
  rw [Std.ExtTreeMap.mem_keys, session?, Std.ExtTreeMap.isSome_getElem?_eq_contains,
    Std.ExtTreeMap.contains_iff_mem]

theorem idle_expiry (policy : Policy) (s : Session) :
    (s.expiry policy now gateway).filterMap Finding.idle? = [] := by
  rw [s.filterMap_expiry policy now gateway fun _ _ => none]
  · exact List.filterMap_eq_nil_iff.mpr fun _ _ => rfl
  · intro token fate
    cases fate <;> rfl

theorem idle_first :
    (walk (visit now putAside) r.sessions.keys r).2.filterMap Finding.idle? =
      r.sessions.keys.filter (r.evicts now) := by
  rw [(visits_first now).walked r.sessions.nodup_keys, List.filterMap_flatMap]
  rw [← List.flatMap_singleton' (r.sessions.keys.filter (r.evicts now)), flatMap_filter]
  refine List.flatMap_congr fun gateway _ => ?_
  dsimp only
  rw [Share.findings, evicts, session_share]
  cases r.session? gateway with
  | none => rfl
  | some s =>
    cases idle : s.isIdle r.policy now with
    | true => simp [idle, Finding.idle?]
    | false => simp [idle, idle_expiry]

theorem registry_passes : (r.passes now).1 = (r.sweep now).registry := by
  refine ext_shares fun gateway => ?_
  rw [share_sweep, Share.share_sweep_eq, passes, idle_first, Share.passed, session_share]
  have distinct := r.sessions.nodup_keys
  have listed := r.mem_keys gateway
  have chosen : gateway ∈ r.sessions.keys.filter (r.evicts now) ↔
      gateway ∈ r.sessions.keys ∧ r.evicts now gateway = true := List.mem_filter
  rw [listed, evicts] at chosen
  -- the second pass comes to a gateway exactly if the first one has found it idle
  cases found : r.session? gateway with
  | none =>
    rw [found] at listed chosen
    have absent : gateway ∉ r.sessions.keys := mt listed.mp Bool.false_ne_true
    have aside : gateway ∉ r.sessions.keys.filter (r.evicts now) :=
      fun member => absent (List.mem_of_mem_filter member)
    exact ((visits_second now).passed aside _).trans ((visits_first now).passed absent r)
  | some s =>
    rw [found] at listed chosen
    have first := (visits_first now).visited distinct (listed.mpr rfl) r
    simp only [Share.passed, session_share, found] at first chosen ⊢
    cases idle : s.isIdle r.policy now with
    | true =>
      have aside := chosen.mpr ⟨rfl, idle⟩
      refine ((visits_second now).visited (distinct.filter _) aside _).trans ?_
      rw [idle, if_pos rfl] at first
      rw [first]
      simp only [id, Share.passed, session_share, found, idle]
      rfl
    | false =>
      have aside := mt chosen.mp fun both => Bool.false_ne_true (idle.symm.trans both.2)
      rw [idle, if_neg Bool.false_ne_true] at first
      exact ((visits_second now).passed aside _).trans first

theorem flatMap_sessions {α : Type} (f : GatewayId → Session → List α) :
    (r.sessions.toList.flatMap fun (gateway, s) => f gateway s) =
      r.sessions.keys.flatMap fun gateway => ((r.session? gateway).map (f gateway)).getD [] := by
  rw [← Std.ExtTreeMap.map_fst_toList_eq_keys, List.flatMap_map]
  refine List.flatMap_congr ?_
  rintro ⟨gateway, s⟩ member
  have found : r.session? gateway = some s :=
    Std.ExtTreeMap.mem_toList_iff_getElem?_eq_some.mp member
  rw [found]
  rfl

theorem findings_passes :
    (r.passes now).2 =
      (r.sessions.toList.flatMap fun (gateway, s) =>
        if s.isIdle r.policy now then [.idle gateway] else s.expiry r.policy now gateway) ++
      r.sessions.toList.flatMap fun (gateway, s) =>
        if s.isIdle r.policy now then closing r.policy gateway s else [] := by
  have distinct := r.sessions.nodup_keys
  rw [passes, idle_first, (visits_first now).walked distinct,
    (visits_second now).walked (distinct.filter _), flatMap_filter,
    r.flatMap_sessions fun gateway s =>
      if s.isIdle r.policy now then [.idle gateway] else s.expiry r.policy now gateway,
    r.flatMap_sessions fun gateway s =>
      if s.isIdle r.policy now then closing r.policy gateway s else []]
  refine congrArg₂ (· ++ ·) (List.flatMap_congr fun gateway _ => ?_)
    (List.flatMap_congr fun gateway member => ?_)
  · dsimp only
    rw [Share.findings, session_share]
    cases r.session? gateway <;> rfl
  · -- the second pass finds the gateways that it comes to as the sweep has found them
    have first := (visits_first now).visited distinct member r
    obtain ⟨policy, share⟩ := Prod.mk.inj first
    dsimp only
    rw [policy, share, evicts, Share.findings]
    cases found : r.session? gateway with
    | none => rfl
    | some s =>
      cases idle : s.isIdle r.policy now with
      | true => simp [Share.passed, found, idle]
      | false => simp [idle]

/-- What is told of the sessions, of those that are idle after all others. -/
def inPasses {α : Type} (f : GatewayId → Session → List α) : List α :=
  (r.sessions.toList.flatMap fun (gateway, s) => if s.isIdle r.policy now then [] else f gateway s) ++
    r.sessions.toList.flatMap fun (gateway, s) => if s.isIdle r.policy now then f gateway s else []

theorem inPasses_perm {α : Type} (f : GatewayId → Session → List α) :
    (r.inPasses now f).Perm (r.sessions.toList.flatMap fun (gateway, s) => f gateway s) := by
  refine (List.flatMap_append_perm _ _ _).trans (List.Perm.of_eq ?_)
  refine List.flatMap_congr ?_
  rintro ⟨gateway, s⟩ -
  dsimp only
  cases s.isIdle r.policy now with
  | true => rfl
  | false => exact List.append_nil _

/-- Of one gateway it is told in the same order. -/
theorem filter_inPasses (f : GatewayId → Session → List Event)
    (own : ∀ g s, ∀ event ∈ f g s, event.gateway = g) :
    ((r.inPasses now f).filter fun event => event.gateway = gateway) =
      (r.sessions.toList.flatMap fun (g, s) => f g s).filter fun event => event.gateway = gateway := by
  rw [inPasses, List.filter_append, filter_flatMap_sessions r gateway f own,
    filter_flatMap_sessions r gateway fun g s => if s.isIdle r.policy now then [] else f g s,
    filter_flatMap_sessions r gateway fun g s => if s.isIdle r.policy now then f g s else []]
  · cases r.session? gateway with
    | none => rfl
    | some s =>
      simp only [Option.map_some, Option.getD_some]
      cases s.isIdle r.policy now with
      | true => rfl
      | false => exact List.append_nil _
  · intro g s event member
    split at member
    · exact own g s event member
    · cases member
  · intro g s event member
    split at member
    · cases member
    · exact own g s event member

section

variable (policy : Policy) (s : Session)

theorem outbound_closing : (closing policy gateway s).filterMap Finding.outbound? = [] := by
  simp [closing, Finding.outbound?]

theorem event_closing :
    (closing policy gateway s).filterMap Finding.event? = closingEvents gateway s := by
  rw [closing, List.filterMap_cons_none rfl, List.filterMap_map]
  exact List.filterMap_some

theorem notice_closing :
    (closing policy gateway s).filterMap Finding.notice? = [.closed gateway policy.windowText] := by
  simp [closing, Finding.notice?]

theorem outbound_expiry :
    (s.expiry policy now gateway).filterMap Finding.outbound? = s.retransmissions policy now := by
  refine s.filterMap_expiry policy now gateway (fun _ fate => fate.outbound?) fun token fate => ?_
  cases fate <;> rfl

theorem event_expiry :
    (s.expiry policy now gateway).filterMap Finding.event? =
      (s.failures policy now).map (.downlinkFailed gateway) := by
  rw [Session.failures, List.map_filterMap]
  refine s.filterMap_expiry policy now gateway
    (fun token fate => (if fate.isFailure then some token else none).map (Event.downlinkFailed gateway))
    fun token fate => ?_
  cases fate <;> rfl

theorem notice_expiry :
    (s.expiry policy now gateway).filterMap Finding.notice? =
      (s.fates policy now).filterMap fun (token, fate) => fateNotice? gateway token fate := by
  refine s.filterMap_expiry policy now gateway (fateNotice? gateway) fun token fate => ?_
  cases fate <;> rfl

end

theorem filterMap_passes {α : Type} {sort : Finding → Option α}
    (f : GatewayId → Session → List α) (aside : ∀ gateway, sort (.idle gateway) = none)
    (idle : ∀ gateway s, s.isIdle r.policy now = true →
      (closing r.policy gateway s).filterMap sort = f gateway s)
    (awake : ∀ gateway s, s.isIdle r.policy now = false →
      (s.expiry r.policy now gateway).filterMap sort = f gateway s) :
    (r.passes now).2.filterMap sort = r.inPasses now f := by
  rw [findings_passes, List.filterMap_append, List.filterMap_flatMap, List.filterMap_flatMap, inPasses]
  refine congrArg₂ (· ++ ·) (List.flatMap_congr fun (gateway, s) _ => ?_)
    (List.flatMap_congr fun (gateway, s) _ => ?_)
  · dsimp only
    split
    · rw [List.filterMap_cons_none (aside gateway), List.filterMap_nil]
    · next stays => exact awake gateway s (Bool.eq_false_iff.mpr stays)
  · dsimp only
    split
    · next asleep => exact idle gateway s asleep
    · rfl

/-- A sweep in two passes is a sweep that tells of idle gateways last. -/
theorem sweepInPasses_eq :
    (r.sweepInPasses now).registry = (r.sweep now).registry ∧
      (r.sweepInPasses now).answer.retransmissions = (r.sweep now).answer.retransmissions ∧
      (r.sweepInPasses now).answer.events = r.inPasses now (sweepEvents r.policy now) ∧
      (r.sweepInPasses now).notices = r.inPasses now (sweepNotices r.policy now) := by
  refine ⟨r.registry_passes now, ?_, ?_, ?_⟩
  · have told : (r.passes now).2.filterMap Finding.outbound? =
        r.inPasses now fun _ => sweepRetransmissions r.policy now := by
      refine r.filterMap_passes now _ (fun _ => rfl) (fun gateway s idle => ?_) fun gateway s awake => ?_
      · rw [outbound_closing, sweepRetransmissions, if_pos idle]
      · rw [outbound_expiry, sweepRetransmissions, if_neg (Bool.eq_false_iff.mp awake)]
    have silent : (r.sessions.toList.flatMap fun (_, s) =>
        if s.isIdle r.policy now then sweepRetransmissions r.policy now s else []) = [] := by
      refine List.flatMap_eq_nil_iff.mpr ?_
      rintro ⟨_, s⟩ -
      dsimp only
      rw [sweepRetransmissions]
      split <;> rfl
    refine told.trans ?_
    rw [inPasses, silent, List.append_nil]
    refine List.flatMap_congr ?_
    rintro ⟨_, s⟩ -
    dsimp only
    rw [sweepRetransmissions]
    split <;> rfl
  · refine r.filterMap_passes now _ (fun _ => rfl) (fun gateway s idle => ?_) fun gateway s awake => ?_
    · rw [event_closing, sweepEvents, if_pos idle]
    · rw [event_expiry, sweepEvents, if_neg (Bool.eq_false_iff.mp awake)]
  · refine r.filterMap_passes now _ (fun _ => rfl) (fun gateway s idle => ?_) fun gateway s awake => ?_
    · rw [notice_closing, sweepNotices, if_pos idle]
    · rw [notice_expiry, sweepNotices, if_neg (Bool.eq_false_iff.mp awake)]

end Registry

end GatewayLink
