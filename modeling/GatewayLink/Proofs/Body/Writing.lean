import GatewayLink.Proofs.Body.Conversion
import GatewayLink.Proofs.Body.RoundTrip

/-! Bodies that can be written.
A body is refused for a part of the other direction, for want of a command, or for the first time that its layout
cannot hold. One that is written shows all its times in full: from the octets they can be told again. -/

namespace GatewayLink

open Json Reading

namespace Moment

theorem fitsCompact_iff {m : Moment} : m.fitsCompact = true ↔ 1000 ∣ m.nanos := by
  rw [fitsCompact, beq_iff_eq, Nat.dvd_iff_mod_eq_zero]

theorem fitsExpanded_iff {m : Moment} : m.fitsExpanded = true ↔ m.nanos = 0 := by
  rw [fitsExpanded, beq_iff_eq]

end Moment

def WholeMicros (time : Option Moment) : Prop := ∀ t ∈ time, 1000 ∣ t.nanos

/-- The time, if there is one, counts whole seconds and is no leap second. -/
def WholeSeconds (time : Option Moment) : Prop := ∀ t ∈ time, t.nanos = 0

theorem UplinkFrame.check_iff {f : UplinkFrame} : f.check = .ok () ↔ WholeMicros f.time := by
  simp only [check_eq_ok, Moment.fitsCompact_iff, WholeMicros]

theorem StatusReport.check_iff {r : StatusReport} : r.check = .ok () ↔ WholeSeconds r.time := by
  simp only [check_eq_ok, Moment.fitsExpanded_iff, WholeSeconds]

theorem DownlinkCommand.check_iff {c : DownlinkCommand} : c.check = .ok () ↔ WholeMicros c.time? := by
  simp only [check_eq_ok, Moment.fitsCompact_iff, WholeMicros]

theorem UplinkFrame.check_eq_error {f : UplinkFrame} {fault : Fault} :
    f.check = .error fault ↔
      ∃ t, f.time = some t ∧ ¬1000 ∣ t.nanos ∧ fault = .packet (.frameTime t) := by
  simp only [← Moment.fitsCompact_iff]
  exact time_eq_error

theorem StatusReport.check_eq_error {r : StatusReport} {fault : Fault} :
    r.check = .error fault ↔
      ∃ t, r.time = some t ∧ t.nanos ≠ 0 ∧ fault = .packet (.statusTime t) := by
  simp only [ne_eq, ← Moment.fitsExpanded_iff]
  exact time_eq_error

theorem DownlinkCommand.check_eq_error {c : DownlinkCommand} {fault : Fault} :
    c.check = .error fault ↔
      ∃ t, c.time? = some t ∧ ¬1000 ∣ t.nanos ∧ fault = .packet (.frameTime t) := by
  simp only [← Moment.fitsCompact_iff]
  exact time_eq_error

namespace Body

theorem bind_eq_error {ε α : Type} {x : Except ε Unit} {f : Unit → Except ε α} {e : ε} :
    (x >>= f) = .error e ↔ x = .error e ∨ x = .ok () ∧ f () = .error e := by
  cases x <;> simp [bind, Except.bind]

theorem checkAll_eq_error {α : Type} {check : α → Except Fault Unit} {as : List α} {fault : Fault} :
    checkAll check as = .error fault ↔ ∃ before a after, as = before ++ a :: after ∧
      (∀ b ∈ before, check b = .ok ()) ∧ check a = .error fault := by
  induction as with
  | nil => simp [checkAll]
  | cons a as ih =>
    have tried : checkAll check (a :: as) = .error fault ↔
        check a = .error fault ∨ check a = .ok () ∧ checkAll check as = .error fault := bind_eq_error
    rw [tried, ih]
    constructor
    · rintro (failed | ⟨checked, before, b, after, rfl, earlier, failed⟩)
      · exact ⟨[], a, as, rfl, List.forall_mem_nil _, failed⟩
      · exact ⟨a :: before, b, after, rfl, List.forall_mem_cons.mpr ⟨checked, earlier⟩, failed⟩
    · rintro ⟨_ | ⟨first, before⟩, b, after, split, earlier, failed⟩
      · obtain ⟨rfl, -⟩ := List.cons.inj split
        exact .inl failed
      · obtain ⟨rfl, rfl⟩ := List.cons.inj split
        obtain ⟨checked, earlier⟩ := List.forall_mem_cons.mp earlier
        exact .inr ⟨checked, before, b, after, rfl, earlier, failed⟩

/-- The body can be written in a direction: it has the parts of this direction only, and each of its times has
room in its layout. -/
def Writable (b : Body) : Direction → Prop
  | .uplink => b.command = none ∧ (∀ f ∈ b.frames, WholeMicros f.time) ∧
      ∀ r ∈ b.status, WholeSeconds r.time
  | .downlink => b.frames = [] ∧ b.status = none ∧ ∃ c, b.command = some c ∧ WholeMicros c.time?

def HasForeign (b : Body) : Direction → Prop
  | .uplink => b.command ≠ none
  | .downlink => b.frames ≠ [] ∨ b.status ≠ none

/-- Why a body cannot be written. -/
inductive Refused (b : Body) : Direction → Fault → Prop
  | hasCommand (foreign : b.HasForeign .uplink) : Refused b .uplink (.schema .hasCommand)
  | frameTime {before after : List UplinkFrame} {f : UplinkFrame} {t : Moment}
    (own : ¬b.HasForeign .uplink) (split : b.frames = before ++ f :: after)
    (earlier : ∀ g ∈ before, WholeMicros g.time) (time : f.time = some t) (fine : ¬1000 ∣ t.nanos) :
    Refused b .uplink (.packet (.frameTime t))
  | statusTime {r : StatusReport} {t : Moment} (own : ¬b.HasForeign .uplink)
    (frames : ∀ f ∈ b.frames, WholeMicros f.time) (status : b.status = some r) (time : r.time = some t)
    (fine : t.nanos ≠ 0) : Refused b .uplink (.packet (.statusTime t))
  | hasReport (foreign : b.HasForeign .downlink) : Refused b .downlink (.schema .hasReport)
  | noCommand (own : ¬b.HasForeign .downlink) (command : b.command = none) :
    Refused b .downlink (.packet .noCommand)
  | commandTime {c : DownlinkCommand} {t : Moment} (own : ¬b.HasForeign .downlink)
    (command : b.command = some c) (time : c.time? = some t) (fine : ¬1000 ∣ t.nanos) :
    Refused b .downlink (.packet (.frameTime t))

theorem check_iff {direction : Direction} {b : Body} :
    b.check direction = .ok () ↔ b.Writable direction := by
  cases direction with
  | uplink =>
    rw [check, checkUplink_eq_ok]
    simp only [Writable, UplinkFrame.check_iff, StatusReport.check_iff, Option.mem_toList, Option.mem_def]
  | downlink =>
    rw [check, checkDownlink_eq_ok]
    simp only [Writable, DownlinkCommand.check_iff]

theorem checkAll_toList_eq_error {α : Type} {check : α → Except Fault Unit} {o : Option α}
    {fault : Fault} :
    checkAll check o.toList = .error fault ↔ ∃ a, o = some a ∧ check a = .error fault := by
  cases o with
  | none => simp [checkAll]
  | some a => cases checked : check a <;> simp [checkAll, checked, Except.bind]

theorem checkUplink_eq_error {b : Body} {fault : Fault} :
    b.checkUplink = .error fault ↔ b.Refused .uplink fault := by
  have foreign_iff : b.command.isSome = true ↔ b.HasForeign .uplink := Option.isSome_iff_ne_none
  rw [checkUplink]
  by_cases foreign : b.HasForeign .uplink
  · rw [if_pos (foreign_iff.mpr foreign)]
    constructor
    · rintro ⟨⟩
      exact .hasCommand foreign
    · rintro (_ | own | own)
      · rfl
      · exact absurd foreign own
      · exact absurd foreign own
  · rw [if_neg (foreign_iff.not.mpr foreign), bind_eq_error, checkAll_eq_error]
    simp only [checkAll_toList_eq_error, checkAll_eq_ok, UplinkFrame.check_iff,
      UplinkFrame.check_eq_error, StatusReport.check_eq_error]
    constructor
    · rintro (⟨before, f, after, split, earlier, t, time, fine, rfl⟩ |
        ⟨frames, r, status, t, time, fine, rfl⟩)
      · exact .frameTime foreign split earlier time fine
      · exact .statusTime foreign frames status time fine
    · rintro (present | ⟨-, split, earlier, time, fine⟩ | ⟨-, frames, status, time, fine⟩)
      · exact absurd present foreign
      · exact .inl ⟨_, _, _, split, earlier, _, time, fine, rfl⟩
      · exact .inr ⟨frames, _, status, _, time, fine, rfl⟩

theorem checkDownlink_eq_error {b : Body} {fault : Fault} :
    b.checkDownlink = .error fault ↔ b.Refused .downlink fault := by
  have foreign_iff : b.frames ≠ [] ∨ b.status.isSome = true ↔ b.HasForeign .downlink :=
    or_congr Iff.rfl Option.isSome_iff_ne_none
  rw [checkDownlink]
  by_cases foreign : b.HasForeign .downlink
  · rw [if_pos (foreign_iff.mpr foreign)]
    constructor
    · rintro ⟨⟩
      exact .hasReport foreign
    · -- the first three reasons are of the other direction
      rintro (_ | _ | _ | _ | own | own)
      · rfl
      · exact absurd foreign own
      · exact absurd foreign own
  · rw [if_neg (foreign_iff.not.mpr foreign)]
    cases command : b.command with
    | none =>
      constructor
      · rintro ⟨⟩
        exact .noCommand foreign command
      · rintro (_ | _ | _ | present | _ | ⟨-, given, -, -⟩)
        · exact absurd present foreign
        · rfl
        · cases command.symm.trans given
    | some c =>
      refine DownlinkCommand.check_eq_error.trans ⟨?_, ?_⟩
      · rintro ⟨t, time, fine, rfl⟩
        exact .commandTime foreign command time fine
      · rintro (_ | _ | _ | present | ⟨-, missing⟩ | ⟨-, given, time, fine⟩)
        · exact absurd present foreign
        · cases command.symm.trans missing
        · cases command.symm.trans given
          exact ⟨_, time, fine, rfl⟩

theorem check_eq_error {direction : Direction} {b : Body} {fault : Fault} :
    b.check direction = .error fault ↔ b.Refused direction fault := by
  cases direction with
  | uplink => exact checkUplink_eq_error
  | downlink => exact checkDownlink_eq_error

end Body

theorem exists_rewritten_both {fields fields' : List (String × Option Json)}
    (readable : (ofFields fields).reread?.isSome = true)
    (same : (ofFields fields).reread? = (ofFields fields').reread?) :
    ∃ m : Members, Rewritten fields m ∧ Rewritten fields' m := by
  obtain ⟨m, reread, known⟩ := exists_rewritten readable
  obtain ⟨m', reread', known'⟩ := exists_rewritten (same ▸ readable)
  rw [ofFields_eq, ofFields_eq, reread?, reread?, reread, reread'] at same
  cases same
  exact ⟨m, known, known'⟩

theorem moment_eq_of_reread {fields fields' : List (String × Option Json)} {o o' : Option Moment}
    {write : Moment → String} (readable : (ofFields fields).reread?.isSome = true)
    (same : (ofFields fields).reread? = (ofFields fields').reread?)
    (value : fieldValue? "time" fields = o.map fun t => .text (write t))
    (value' : fieldValue? "time" fields' = o'.map fun t => .text (write t))
    (told : ∀ t ∈ o, ∀ t' ∈ o', write t = write t' → t = t') : o = o' := by
  obtain ⟨m, known, known'⟩ := exists_rewritten_both readable same
  have found := known.kept value fun _ => rfl
  rw [known'.kept value' fun _ => rfl] at found
  cases o <;> cases o' <;> simp_all

theorem UplinkFrame.time_eq_of_reread {f g : UplinkFrame} (first : WholeMicros f.time)
    (second : WholeMicros g.time) (same : f.toJson.reread? = g.toJson.reread?) : f.time = g.time :=
  moment_eq_of_reread f.isSome_reread_toJson same rfl rfl fun t member t' member' =>
    Moment.compactText_inj (Moment.fitsCompact_iff.mpr (first t member))
      (Moment.fitsCompact_iff.mpr (second t' member'))

theorem StatusReport.time_eq_of_reread {r s : StatusReport} (first : WholeSeconds r.time)
    (second : WholeSeconds s.time) (same : r.toJson.reread? = s.toJson.reread?) : r.time = s.time :=
  moment_eq_of_reread r.isSome_reread_toJson same (by simp) (by simp) fun t member t' member' =>
    Moment.expandedText_inj (Moment.fitsExpanded_iff.mpr (first t member))
      (Moment.fitsExpanded_iff.mpr (second t' member'))

theorem DownlinkCommand.time_eq_of_reread {c d : DownlinkCommand} (first : WholeMicros c.time?)
    (second : WholeMicros d.time?) (same : c.toJson.reread? = d.toJson.reread?) :
    c.time? = d.time? :=
  moment_eq_of_reread c.isSome_reread_toJson same (by simp [DataRate.fields])
    (by simp [DataRate.fields]) fun t member t' member' =>
      Moment.compactText_inj (Moment.fitsCompact_iff.mpr (first t member))
        (Moment.fitsCompact_iff.mpr (second t' member'))

theorem map_eq_of_rereadItems {α β : Type} {write : α → Json} {shown : α → β} {as bs : List α}
    {items : List Json}
    (told : ∀ a ∈ as, ∀ b ∈ bs, (write a).reread? = (write b).reread? → shown a = shown b)
    (first : rereadItems? (as.map write) = some items)
    (second : rereadItems? (bs.map write) = some items) : as.map shown = bs.map shown := by
  have readAs := List.forall₂_map_left_iff.mp (rereadItems?_eq_some.mp first)
  have readBs := List.forall₂_map_left_iff.mp (rereadItems?_eq_some.mp second)
  clear first second
  induction readAs generalizing bs with
  | nil =>
    cases readBs
    rfl
  | @cons a _ as _ readA _ ih =>
    cases readBs with
    | @cons b _ bs _ readB readBs =>
      rw [List.map_cons, List.map_cons,
        told a List.mem_cons_self b List.mem_cons_self (readA.trans readB.symm),
        ih (fun a member b member' => told a (List.mem_cons_of_mem _ member) b
          (List.mem_cons_of_mem _ member')) readBs]

theorem map_eq_of_bind_reread {α β : Type} {write : α → Json} {shown : α → β} {o o' : Option α}
    (readable : ∀ a, (write a).reread?.isSome = true)
    (told : ∀ a ∈ o, ∀ b ∈ o', (write a).reread? = (write b).reread? → shown a = shown b)
    (same : (o.map write).bind Json.reread? = (o'.map write).bind Json.reread?) :
    o.map shown = o'.map shown := by
  cases o with
  | none =>
    cases o' with
    | none => rfl
    | some b =>
      have present := readable b
      rw [← show _ = (write b).reread? from same] at present
      cases present
  | some a =>
    cases o' with
    | none =>
      have present := readable a
      rw [show (write a).reread? = _ from same] at present
      cases present
    | some b => exact congrArg some (told a rfl b rfl same)

namespace Body

/-- The times of frames, report and command are the same, one by one. -/
structure SameTimes (a b : Body) : Prop where
  frames : a.frames.map UplinkFrame.time = b.frames.map UplinkFrame.time
  status : a.status.map StatusReport.time = b.status.map StatusReport.time
  command : a.command.map DownlinkCommand.time? = b.command.map DownlinkCommand.time?

theorem Entries.unique {m : Members} {items items' : List Json} (first : Entries m items)
    (second : Entries m items') : items = items' := by
  obtain ⟨_, found, rfl⟩ := optional_array_iff.mpr first
  obtain ⟨_, found', rfl⟩ := optional_array_iff.mpr second
  cases found.symm.trans found'
  rfl

theorem exists_entries_rewritten {fields : List (String × Option Json)} {m : Members}
    {frames : List UplinkFrame} (known : Rewritten fields m)
    (value : fieldValue? "rxpk" fields =
      if frames = [] then none else some (.array (frames.map UplinkFrame.toJson))) :
    ∃ items, rereadItems? (frames.map UplinkFrame.toJson) = some items ∧ Entries m items := by
  by_cases empty : frames = []
  · subst empty
    refine ⟨[], rfl, .inr ⟨?_, rfl⟩⟩
    rw [Members.Absent, known.absent value]
    simp
  · rw [if_neg empty] at value
    obtain ⟨v, reread⟩ := Option.isSome_iff_exists.mp (known.present "rxpk" _ value)
    obtain ⟨items, read, rfl⟩ := Option.map_eq_some_iff.mp reread
    refine ⟨items, read, .inl ?_⟩
    rw [known.get?, value]
    exact reread

/-- Bodies written with the same octets have the same times: no time is rounded on its way. -/
theorem sameTimes_of_octets {direction : Direction} {a b : Body} (first : a.Writable direction)
    (second : b.Writable direction) (same : a.octets direction = b.octets direction) :
    SameTimes a b := by
  have reread : (a.toJson direction).reread? = (b.toJson direction).reread? := by
    rw [← parse?_octets, ← parse?_octets, same]
  cases direction with
  | uplink =>
    obtain ⟨noCommand, framesA, statusA⟩ := first
    obtain ⟨noCommand', framesB, statusB⟩ := second
    obtain ⟨m, known, known'⟩ := exists_rewritten_both (isSome_reread_toJson .uplink a) reread
    obtain ⟨items, readA, there⟩ := exists_entries_rewritten known rfl
    obtain ⟨items', readB, there'⟩ := exists_entries_rewritten known' rfl
    cases there.unique there'
    have reports := (known.get? "stat").symm.trans (known'.get? "stat")
    simp only [fieldValue?, Option.none_or, if_true] at reports
    refine ⟨map_eq_of_rereadItems (fun f member g member' => ?_) readA readB,
      map_eq_of_bind_reread StatusReport.isSome_reread_toJson (fun r member s member' => ?_) ?_, ?_⟩
    · exact UplinkFrame.time_eq_of_reread (framesA f member) (framesB g member')
    · exact StatusReport.time_eq_of_reread (statusA r member) (statusB s member')
    · simpa using reports
    · rw [noCommand, noCommand']
  | downlink =>
    obtain ⟨noFrames, noStatus, c, command, timeA⟩ := first
    obtain ⟨noFrames', noStatus', d, command', timeB⟩ := second
    obtain ⟨m, known, known'⟩ := exists_rewritten_both (isSome_reread_toJson .downlink a) reread
    have commands := (known.get? "txpk").symm.trans (known'.get? "txpk")
    simp only [fieldValue?, command, command', Option.map_some, Option.none_or, if_true,
      Option.bind_some] at commands
    refine ⟨by rw [noFrames, noFrames'], by rw [noStatus, noStatus'], ?_⟩
    rw [command, command', Option.map_some, Option.map_some,
      DownlinkCommand.time_eq_of_reread timeA timeB commands]

end Body

end GatewayLink
