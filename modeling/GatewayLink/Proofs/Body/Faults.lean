import GatewayLink.Proofs.Body.Conversion

/-! What a body can be refused for.
A conversion reports a time, a modulation or something else in the body. Only the keys of the other direction
are reported as such, and nothing in a body is ever reported as a fault of the header or of the packet. -/

namespace GatewayLink

open Json Reading

/-- The faults of conversions, and of records of the wrong form. -/
def Fault.OfRecords : Fault → Prop
  | .body _ | .modulation _ | .timestamp _ _ => True
  | .header _ | .packet _ | .schema _ => False

theorem DataRate.ofJson_eq_error {modulation : Modulation} {v : Json} {fault : Fault}
    (failed : ofJson modulation v = .error fault) : ∃ cause, fault = .body cause := by
  unfold ofJson at failed
  split at failed
  · cases failed
  · split at failed <;> cases failed
    exact ⟨_, rfl⟩
  · split at failed <;> cases failed
    exact ⟨_, rfl⟩
  · cases failed
    exact ⟨_, rfl⟩

namespace Json.Members

variable {read : String → Except Moment.Fault Moment} (m : Members) (fault : Fault)

theorem ofRecords_time (failed : m.TimeFault read fault) : fault.OfRecords := by
  obtain ⟨text, cause, -, -, rfl⟩ := failed
  exact trivial

theorem ofRecords_crc (failed : m.CrcFault fault) : fault.OfRecords := by
  obtain ⟨code, -, -, rfl⟩ := failed
  exact trivial

theorem ofRecords_modulation (failed : m.ModulationFault fault) : fault.OfRecords := by
  obtain ⟨name, -, -, rfl⟩ := failed
  exact trivial

theorem ofRecords_rate (failed : m.RateFault fault) : fault.OfRecords := by
  obtain ⟨modulation, -, ⟨-, rfl⟩ | ⟨v, -, -, refused⟩⟩ := failed
  · exact trivial
  · obtain ⟨cause, rfl⟩ := DataRate.ofJson_eq_error refused
    exact trivial

theorem ofRecords_octets (failed : m.OctetsFault fault) : fault.OfRecords := by
  obtain ⟨text, cause, -, -, rfl⟩ := failed
  exact trivial

end Json.Members

def Confined (conversions : List (Fault → Prop)) : Prop :=
  ∀ fails ∈ conversions, ∀ fault, fails fault → fault.OfRecords

namespace Confined

theorem recordFault {table : List FieldForm} {conversions : Members → List (Fault → Prop)}
    (confined : ∀ m, Confined (conversions m)) (v : Json) (fault : Fault)
    (failed : RecordFault table conversions v fault) : fault.OfRecords := by
  obtain ⟨m, -, first⟩ := failed
  obtain ⟨fails, member, failed⟩ := first.exists_mem
  exact confined m fails member fault failed

theorem uplinkFrame (m : Members) : Confined (UplinkFrame.conversions m) := by
  simp only [Confined, UplinkFrame.conversions, List.forall_mem_cons]
  exact ⟨m.ofRecords_time, m.ofRecords_crc, m.ofRecords_modulation, m.ofRecords_rate,
    m.ofRecords_octets, nofun⟩

theorem statusReport (m : Members) : Confined (StatusReport.conversions m) := by
  simp only [Confined, StatusReport.conversions, List.forall_mem_cons]
  exact ⟨m.ofRecords_time, nofun⟩

theorem downlinkCommand (m : Members) : Confined (DownlinkCommand.conversions m) := by
  simp only [Confined, DownlinkCommand.conversions, List.forall_mem_cons]
  exact ⟨m.ofRecords_time, m.ofRecords_modulation, m.ofRecords_rate, m.ofRecords_octets, nofun⟩

theorem uplink (entries : List Json) (report : Option Json) :
    Confined (Body.uplinkConversions entries report) := by
  rw [Confined, Body.uplinkConversions, List.forall_mem_append, List.forall_mem_map,
    List.forall_mem_map]
  exact ⟨fun v _ => recordFault uplinkFrame v, fun v _ => recordFault statusReport v⟩

theorem downlink (command : Json) : Confined (Body.downlinkConversions command) := by
  rw [Confined, Body.downlinkConversions, List.forall_mem_singleton]
  exact recordFault downlinkCommand command

theorem ofRecords_of_result {α : Type} {x : Reading α}
    (known : x.HasForm → ∃ formed conversions, Reads x formed conversions ∧ Confined conversions)
    {fault : Fault} (failed : x.result = .error fault) : fault.OfRecords := by
  rcases result_eq_error.mp failed with ⟨-, rfl⟩ | failed
  · exact trivial
  · obtain ⟨_, _, reads, confined⟩ := known failed.hasForm
    obtain ⟨fails, member, failed⟩ := ((reads.fails failed.hasForm fault).mp failed).exists_mem
    exact confined fails member fault failed

end Confined

namespace Body

variable {m : Members} {fault : Fault}

theorem ofRecords_of_uplink
    (failed : (uplink <$> readFrames m <*> readStatus m).result = .error fault) :
    fault.OfRecords := by
  refine Confined.ofRecords_of_result (fun form => ?_) failed
  obtain ⟨entries, report, known⟩ := hasForm_uplink_iff.mp form
  exact ⟨_, _, reads_uplink known.listed known.reported, .uplink entries report⟩

theorem ofRecords_of_downlink (failed : (downlink <$> readCommand m).result = .error fault) :
    fault.OfRecords := by
  refine Confined.ofRecords_of_result (fun form => ?_) failed
  obtain ⟨command, known⟩ := hasForm_readCommand_iff.mp (hasForm_map.mp form)
  rw [readCommand, known.given]
  exact ⟨_, _, (DownlinkCommand.reads_ofJson command).map downlink, .downlink command⟩

theorem fault_of_decode {direction : Direction} {octets : List UInt8}
    (failed : decode direction octets = .error fault) :
    fault.OfRecords ∨ ∃ cause, fault = .schema cause := by
  unfold decode at failed
  split at failed
  · unfold ofMembers at failed
    split at failed
    · split at failed
      · cases failed
        exact .inr ⟨_, rfl⟩
      · exact .inl (ofRecords_of_uplink failed)
    · split at failed
      · cases failed
        exact .inr ⟨_, rfl⟩
      · split at failed
        · cases failed
          exact .inr ⟨_, rfl⟩
        · exact .inl (ofRecords_of_downlink failed)
  · cases failed
    exact .inl trivial

end Body

end GatewayLink
