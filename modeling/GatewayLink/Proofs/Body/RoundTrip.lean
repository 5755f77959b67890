import GatewayLink.Body.Basic
import GatewayLink.Proofs.Body.Records

/-! Round trip of bodies.
A body that can be written in a direction is read back from its octets exactly if all its floats survive
and all its radio times have a year of four digits. -/

namespace GatewayLink

open Json Json.Members Reading

namespace Body

def floats (b : Body) : List Binary64 :=
  b.frames.flatMap UplinkFrame.floats ++ b.status.toList.flatMap StatusReport.floats ++
    b.command.toList.flatMap DownlinkCommand.floats

/-- The times of reception and of emission, all in the compact layout. -/
def radioTimes (b : Body) : List Moment :=
  b.frames.flatMap (·.time.toList) ++ b.command.toList.flatMap (·.time?.toList)

theorem forall_radioTimes_uplink {frames : List UplinkFrame} {status : Option StatusReport}
    {P : Moment → Prop} :
    (∀ t ∈ (uplink frames status).radioTimes, P t) ↔ ∀ f ∈ frames, ∀ t ∈ f.time, P t := by
  simp only [radioTimes, uplink, Option.toList_none, List.flatMap_nil, List.append_nil,
    List.forall_mem_flatMap, Option.mem_toList, Option.mem_def]

theorem forall_radioTimes_downlink {c : DownlinkCommand} {P : Moment → Prop} :
    (∀ t ∈ (downlink c).radioTimes, P t) ↔ ∀ t ∈ c.time?, P t := by
  simp [radioTimes, downlink]

theorem checkAll_eq_ok {α : Type} {check : α → Except Fault Unit} {as : List α} :
    checkAll check as = .ok () ↔ ∀ a ∈ as, check a = .ok () := by
  induction as with
  | nil => simp [checkAll]
  | cons a as ih =>
    rw [List.forall_mem_cons, ← ih, checkAll]
    cases checked : check a <;> simp [Except.bind]

theorem depthItems_map {α : Type} {write : α → Json} {n : Nat} (shallow : ∀ a, (write a).depth ≤ n)
    (as : List α) : depthItems (as.map write) ≤ n := by
  induction as with
  | nil => exact Nat.zero_le n
  | cons a as ih => exact Nat.max_le.mpr ⟨shallow a, ih⟩

theorem eq_array_of_mem {frames : List UplinkFrame} {v : Json}
    (member : v ∈ if frames = [] then none else some (.array (frames.map UplinkFrame.toJson))) :
    v = .array (frames.map UplinkFrame.toJson) := by
  by_cases none : frames = []
  · simp [none] at member
  · simpa [none, eq_comm] using member

theorem depth_toJson (direction : Direction) (b : Body) : (b.toJson direction).depth ≤ 3 := by
  cases direction with
  | uplink =>
    have frames : depthItems (b.frames.map UplinkFrame.toJson) ≤ 1 :=
      depthItems_map UplinkFrame.depth_toJson b.frames
    refine depth_ofFields ?_
    simp only [List.forall_mem_cons, Option.forall_mem_map]
    refine ⟨fun v member => ?_, fun r _ => ?_, nofun⟩
    · obtain rfl := eq_array_of_mem member
      rw [depth]
      omega
    · exact Nat.le_succ_of_le r.depth_toJson
  | downlink =>
    refine depth_ofFields ?_
    simp only [List.forall_mem_cons, Option.forall_mem_map]
    exact ⟨fun c _ => Nat.le_succ_of_le c.depth_toJson, nofun⟩

theorem isSome_reread_toJson (direction : Direction) (b : Body) :
    (b.toJson direction).reread?.isSome = true := by
  cases direction with
  | uplink =>
    have frames : (rereadItems? (b.frames.map UplinkFrame.toJson)).isSome = true :=
      isSome_rereadItems (List.forall_mem_map.mpr fun f _ => f.isSome_reread_toJson)
    refine isSome_reread_ofFields ?_
    simp only [List.forall_mem_cons, Option.forall_mem_map]
    refine ⟨fun v member => ?_, fun r _ => r.isSome_reread_toJson, nofun⟩
    obtain rfl := eq_array_of_mem member
    rw [reread?, Option.isSome_map]
    exact frames
  | downlink =>
    refine isSome_reread_ofFields ?_
    simp only [List.forall_mem_cons, Option.forall_mem_map]
    exact ⟨fun c _ => c.isSome_reread_toJson, nofun⟩

theorem encode_eq_ok {direction : Direction} {b : Body} {octets : List UInt8} :
    b.encode direction = .ok octets ↔ b.check direction = .ok () ∧ b.octets direction = octets := by
  rw [encode]
  cases b.check direction <;> simp [Except.map]

theorem parse?_octets (direction : Direction) (b : Body) :
    parse? (b.octets direction) = (b.toJson direction).reread? :=
  parse?_compact (Nat.le_trans (depth_toJson direction b) (by decide))

theorem decode_octets_eq_ok {direction : Direction} {b again : Body}
    {fields : List (String × Option Json)} (written : b.toJson direction = ofFields fields) :
    decode direction (b.octets direction) = .ok again ↔
      ∃ m, rereadMembers? (presentFields fields) = some m ∧ ofMembers direction m = .ok again := by
  rw [decode, parse?_octets, written, ofFields_eq, reread?]
  cases rereadMembers? (presentFields fields) <;> simp

theorem readFrames_rewritten {fields : List (String × Option Json)} {m : Members}
    {frames : List UplinkFrame} (known : Rewritten fields m)
    (value : fieldValue? "rxpk" fields =
      if frames = [] then none else some (.array (frames.map UplinkFrame.toJson))) :
    ∃ items, rereadItems? (frames.map UplinkFrame.toJson) = some items ∧
      readFrames m = Reading.forEach UplinkFrame.ofJson items := by
  by_cases none : frames = []
  · subst none
    have unread : m.optional array? "rxpk" = some Option.none := by
      simp [Members.optional, known.absent value]
    refine ⟨[], rfl, ?_⟩
    rw [readFrames, unread]
    rfl
  · rw [if_neg none] at value
    obtain ⟨v, reread⟩ := Option.isSome_iff_exists.mp (known.present "rxpk" _ value)
    have there : m.get? "rxpk" = some v := by
      rw [known.get?, value]
      exact reread
    obtain ⟨items, read, rfl⟩ := Option.map_eq_some_iff.mp reread
    have array : m.optional array? "rxpk" = some (some items) := by
      simp [Members.optional, there, array?]
    refine ⟨items, read, ?_⟩
    rw [readFrames, array]
    rfl

theorem gives_readStatus {fields : List (String × Option Json)} {m : Members}
    {status : Option StatusReport} (known : Rewritten fields m)
    (value : fieldValue? "stat" fields = status.map StatusReport.toJson) :
    (readStatus m).Gives status ↔ ∀ r ∈ status, ReadsBack r.toJson StatusReport.ofJson r := by
  cases status with
  | none =>
    have unread : m.optional some "stat" = some none := by
      simp [Members.optional, known.absent value]
    rw [readStatus, unread]
    simp [gives_pure]
  | some r =>
    obtain ⟨v, reread⟩ := Option.isSome_iff_exists.mp (known.present "stat" _ value)
    have there : m.get? "stat" = some v := by
      rw [known.get?, value]
      exact reread
    have given : m.optional some "stat" = some (some v) := by
      obtain ⟨members, _, rfl⟩ := Option.map_eq_some_iff.mp reread
      simp [Members.optional, there]
    rw [readStatus, given, gives_map]
    simp [readsBack_iff reread]

theorem decode_uplink (frames : List UplinkFrame) (status : Option StatusReport) :
    decode .uplink ((uplink frames status).octets .uplink) = .ok (uplink frames status) ↔
      (∀ f ∈ frames, ReadsBack f.toJson UplinkFrame.ofJson f) ∧
        ∀ r ∈ status, ReadsBack r.toJson StatusReport.ofJson r := by
  rw [decode_octets_eq_ok rfl]
  refine exists_reread_iff (isSome_reread_toJson .uplink (uplink frames status)) fun m known => ?_
  have uplinkOnly : m.has "txpk" = false := known.has_eq_false rfl
  have readsFrames : (readFrames m).Gives frames ↔
      ∀ f ∈ frames, ReadsBack f.toJson UplinkFrame.ofJson f := by
    obtain ⟨items, reread, read⟩ := readFrames_rewritten known rfl
    rw [read]
    exact gives_forEach reread
  have readsStatus : (readStatus m).Gives status ↔
      ∀ r ∈ status, ReadsBack r.toJson StatusReport.ofJson r :=
    gives_readStatus known (by simp [uplink])
  rw [← readsFrames, ← readsStatus, ofMembers, uplinkOnly, if_neg Bool.false_ne_true, result_eq_ok,
    gives_seq]
  constructor
  · rintro ⟨g, status', given, readStatus, step⟩
    obtain ⟨frames', readFrames, rfl⟩ := gives_map.mp given
    cases step
    exact ⟨readFrames, readStatus⟩
  · rintro ⟨readFrames, readStatus⟩
    exact ⟨uplink frames, status, readFrames.map uplink, readStatus, rfl⟩

theorem decode_downlink {c again : DownlinkCommand} :
    decode .downlink ((downlink c).octets .downlink) = .ok (downlink again) ↔
      ReadsBack c.toJson DownlinkCommand.ofJson again := by
  rw [decode_octets_eq_ok rfl]
  refine exists_reread_iff (isSome_reread_toJson .downlink (downlink c)) fun m known => ?_
  have noFrames : m.has "rxpk" = false := known.has_eq_false rfl
  have noStatus : m.has "stat" = false := known.has_eq_false rfl
  obtain ⟨v, reread⟩ := Option.isSome_iff_exists.mp (known.present "txpk" _ rfl)
  have there : m.get? "txpk" = some v := (known.get? "txpk").trans reread
  rw [readsBack_iff reread, ofMembers, noFrames, noStatus, if_neg Bool.false_ne_true,
    if_neg Bool.false_ne_true, result_eq_ok, gives_map, readCommand, there]
  simp [downlink]

theorem checkUplink_eq_ok {b : Body} :
    b.checkUplink = .ok () ↔ b.command = none ∧ (∀ f ∈ b.frames, f.check = .ok ()) ∧
      ∀ r ∈ b.status.toList, r.check = .ok () := by
  rw [← checkAll_eq_ok, ← checkAll_eq_ok, checkUplink]
  cases b.command with
  | some c => simp
  | none => cases checkAll UplinkFrame.check b.frames <;> simp [bind, Except.bind]

theorem checkDownlink_eq_ok {b : Body} :
    b.checkDownlink = .ok () ↔ b.frames = [] ∧ b.status = none ∧
      ∃ c, b.command = some c ∧ c.check = .ok () := by
  rw [checkDownlink]
  by_cases report : b.frames ≠ [] ∨ b.status.isSome = true
  · rw [if_pos report]
    obtain some_frame | some_status := report
    · simp [some_frame]
    · simp [Option.isSome_iff_ne_none.mp some_status]
  · obtain ⟨frames, status⟩ := not_or.mp report
    rw [if_neg report]
    cases b.command <;> simp_all

theorem decode_octets {direction : Direction} {b : Body} (checked : b.check direction = .ok ()) :
    decode direction (b.octets direction) = .ok b ↔
      (∀ x ∈ b.floats, x.Survives) ∧ ∀ t ∈ b.radioTimes, t.HasPlainYear := by
  obtain ⟨frames, status, command⟩ := b
  cases direction with
  | uplink =>
    obtain ⟨rfl, frames_ok, status_ok⟩ := checkUplink_eq_ok.mp checked
    have framesBack : (∀ f ∈ frames, ReadsBack f.toJson UplinkFrame.ofJson f) ↔
        (∀ f ∈ frames, ∀ x ∈ f.floats, x.Survives) ∧
          ∀ f ∈ frames, ∀ t ∈ f.time, t.HasPlainYear := by
      rw [← forall₂_and]
      exact forall₂_congr fun f member => UplinkFrame.readsBack_toJson (frames_ok f member)
    have statusBack : (∀ r ∈ status, ReadsBack r.toJson StatusReport.ofJson r) ↔
        ∀ r ∈ status, ∀ x ∈ r.floats, x.Survives :=
      forall₂_congr fun r member =>
        StatusReport.readsBack_toJson (status_ok r (Option.mem_toList.mpr member))
    have everyFloat : (∀ x ∈ (uplink frames status).floats, x.Survives) ↔
        (∀ f ∈ frames, ∀ x ∈ f.floats, x.Survives) ∧ ∀ r ∈ status, ∀ x ∈ r.floats, x.Survives := by
      simp only [floats, uplink, Option.toList_none, List.flatMap_nil, List.append_nil,
        List.forall_mem_append, List.forall_mem_flatMap, Option.mem_toList, Option.mem_def]
    have whole : Body.mk frames status none = uplink frames status := rfl
    rw [whole, decode_uplink, framesBack, statusBack, everyFloat, forall_radioTimes_uplink,
      and_right_comm]
  | downlink =>
    obtain ⟨rfl, rfl, c, rfl, command_ok⟩ := checkDownlink_eq_ok.mp checked
    have whole : Body.mk [] none (some c) = downlink c := rfl
    rw [whole, decode_downlink, DownlinkCommand.readsBack_toJson command_ok,
      forall_radioTimes_downlink]
    simp [floats, downlink]

theorem octets_ne_nil (direction : Direction) (b : Body) : b.octets direction ≠ [] := by
  obtain ⟨fields, written⟩ : ∃ fields, b.toJson direction = ofFields fields := by
    cases direction <;> exact ⟨_, rfl⟩
  have opens : (ofFields fields).compact.toList =
      '\x7b' :: (memberLexemes (presentFields fields) ++ [Lexeme.endObject]).flatMap Lexeme.chars := by
    rw [ofFields_eq, compact, String.toList_ofList]
    rfl
  rw [octets, text, written, octetsOfText_eq, opens, List.flatMap_cons]
  exact List.append_ne_nil_of_left_ne_nil String.utf8EncodeChar_ne_nil _

end Body

end GatewayLink
