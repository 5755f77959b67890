import Mathlib.Data.List.DropRight
import GatewayLink.Proofs.Body.Conversion
import GatewayLink.Proofs.Body.Records

/-! Radio payloads in bodies.
If everything else in a body is accepted, its radio payloads decide: each of them is read to the octets whose
base64 text it is, where padding may be missing at its end, and any other text makes decoding fail. -/

namespace GatewayLink

open Json Reading

/-- The text that is written for the octets, but for padding that may be missing at its end. -/
def Base64.Spells (text : String) (octets : List UInt8) : Prop :=
  ∃ missing, text.toList ++ List.replicate missing '=' = encode octets

namespace Base64

theorem octetsOfText_encode (octets : List UInt8) :
    octetsOfText (String.ofList (encode octets)) = (encode octets).map octetOf :=
  octetsOfText_ascii (encode_isAscii octets)

theorem octetsOfText_padding (missing : Nat) :
    octetsOfText (String.ofList (List.replicate missing '=')) = List.replicate missing padding := by
  rw [octetsOfText_ascii fun c member => by rw [List.eq_of_mem_replicate member]; decide,
    List.map_replicate]
  rfl

theorem decode_octetsOfText {text : String} {octets : List UInt8} :
    decode (octetsOfText text) = .ok octets ↔ Spells text octets := by
  have added (missing : Nat) :
      octetsOfText (String.ofList (text.toList ++ List.replicate missing '=')) =
        octetsOfText text ++ List.replicate missing padding := by
    rw [octetsOfText_append, octetsOfText_padding, String.ofList_toList]
  rw [decode_eq_ok_iff, Abridges, Spells]
  refine exists_congr fun missing => ?_
  rw [← added, ← octetsOfText_encode]
  constructor
  · exact fun same => String.ofList_inj.mp (octetsOfText_inj same)
  · exact fun same => congrArg (octetsOfText ∘ String.ofList) same

theorem Spells.stripped {s t : String} {octets : List UInt8} (first : Spells s octets)
    (second : Spells t octets) :
    s.toList.rdropWhile (· == '=') = t.toList.rdropWhile (· == '=') := by
  have strip (text : List Char) (missing : Nat) :
      (text ++ List.replicate missing '=').rdropWhile (· == '=') = text.rdropWhile (· == '=') := by
    rw [List.rdropWhile, List.reverse_append, List.reverse_replicate, List.dropWhile_append_of_pos,
      List.rdropWhile]
    exact fun c member => by rw [List.eq_of_mem_replicate member]; rfl
  obtain ⟨missing, written⟩ := first
  obtain ⟨missing', written'⟩ := second
  rw [← strip s.toList missing, ← strip t.toList missing', written, written']

end Base64

namespace Json

/-- The text of the radio payload; there is an empty one if it is missing. -/
def Members.PayloadText (m : Members) (text : String) : Prop :=
  m.get? "data" = some (.text text) ∨ m.get? "data" = none ∧ text = ""

/-- The radio payload of the record is a text of these octets. -/
def Carried (table : List FieldForm) (v : Json) (octets : List UInt8) : Prop :=
  ∃ m text, IsRecord table v m ∧ m.PayloadText text ∧ Base64.Spells text octets

theorem payloadText_iff {m : Members} {text : String} :
    m.PayloadText text ↔ m.text "data" = some text := by
  unfold Members.PayloadText Members.text Members.withDefault
  cases m.get? "data" with
  | none => simp [eq_comm]
  | some v => simp [text?_eq_some]

theorem Members.PayloadText.unique {m : Members} {s t : String} (first : m.PayloadText s)
    (second : m.PayloadText t) : s = t := by
  rw [payloadText_iff] at first second
  exact Option.some.inj (first.symm.trans second)

theorem IsRecord.unique {table : List FieldForm} {v : Json} {m m' : Members}
    (first : IsRecord table v m) (second : IsRecord table v m') : m = m' := by
  rw [isRecord_iff] at first second
  exact Option.some.inj (first.symm.trans second)

theorem Carried.unique {table : List FieldForm} {v : Json} {octets octets' : List UInt8}
    (first : Carried table v octets) (second : Carried table v octets') : octets = octets' := by
  obtain ⟨m, text, record, given, spelled⟩ := first
  obtain ⟨m', text', record', given', spelled'⟩ := second
  cases record.unique record'
  cases given.unique given'
  rw [← Base64.decode_octetsOfText] at spelled spelled'
  exact Except.ok.inj (spelled.symm.trans spelled')

theorem gives_octets_iff {m : Members} {octets : List UInt8} :
    (m.octets "data").Gives octets ↔ ∃ text, m.PayloadText text ∧ Base64.Spells text octets := by
  rw [Members.octets, gives_convert]
  refine exists_congr fun text => ?_
  rw [payloadText_iff, ← Base64.decode_octetsOfText]
  refine and_congr_right fun _ => ?_
  cases Base64.decode (octetsOfText text) <;> simp [Except.mapError]

end Json

def UplinkFrame.otherConversions (m : Members) : List (Fault → Prop) :=
  [m.TimeFault Moment.readCompact, m.CrcFault, m.ModulationFault, m.RateFault]

def DownlinkCommand.otherConversions (m : Members) : List (Fault → Prop) :=
  [m.TimeFault Moment.readCompact, m.ModulationFault, m.RateFault]

/-- A kind of record with a radio payload. The conversions of its other fields come before that of the
payload. -/
structure PayloadRecord (α : Type) (table : List FieldForm) (read : Json → Reading α)
    (others : Members → List (Fault → Prop)) (octets : α → List UInt8) : Prop where
  reads : ∀ v, Reads (read v) (Formed table v)
    [RecordFault table (fun m => others m ++ [m.OctetsFault]) v]
  carried : ∀ v a, (read v).Gives a → Carried table v (octets a)

def OthersPass (table : List FieldForm) (others : Members → List (Fault → Prop)) (v : Json) : Prop :=
  ∀ m, IsRecord table v m → ∀ fails ∈ others m, ∀ fault, ¬fails fault

namespace PayloadRecord

variable {α : Type} {table : List FieldForm} {read : Json → Reading α}
  {others : Members → List (Fault → Prop)} {octets : α → List UInt8} {v : Json} {fault : Fault}

theorem fault_of_passed (passed : OthersPass table others v)
    (failed : RecordFault table (fun m => others m ++ [m.OctetsFault]) v fault) :
    ∃ cause, fault = .body (.base64 cause) := by
  obtain ⟨m, record, failed⟩ := failed
  rcases FirstOf.append.mp failed with failed | ⟨-, failed⟩
  · obtain ⟨fails, member, failed⟩ := failed.exists_mem
    exact absurd failed (passed m record fails member fault)
  · obtain ⟨text, cause, -, -, rfl⟩ := FirstOf.single.mp failed
    exact ⟨cause, rfl⟩

theorem not_fault_of_carried {d : List UInt8} (passed : OthersPass table others v)
    (given : Carried table v d) :
    ¬RecordFault table (fun m => others m ++ [m.OctetsFault]) v fault := by
  rintro ⟨m, record, failed⟩
  obtain ⟨m', text, record', given, spelled⟩ := given
  cases record.unique record'
  rcases FirstOf.append.mp failed with failed | ⟨-, failed⟩
  · obtain ⟨fails, member, failed⟩ := failed.exists_mem
    exact passed m record fails member fault failed
  · obtain ⟨text', cause, found, unread, -⟩ := FirstOf.single.mp failed
    cases given.unique (.inl found)
    rw [Base64.decode_octetsOfText.mpr spelled] at unread
    cases unread

theorem gives_iff (kind : PayloadRecord α table read others octets) (formed : Formed table v)
    (passed : OthersPass table others v) {d : List UInt8} :
    (∃ a, (read v).Gives a ∧ octets a = d) ↔ Carried table v d := by
  constructor
  · rintro ⟨a, given, rfl⟩
    exact kind.carried v a given
  · intro carried
    have succeeds : ∀ fails ∈ [RecordFault table (fun m => others m ++ [m.OctetsFault]) v],
        ∀ fault, ¬fails fault :=
      List.forall_mem_singleton.mpr fun fault => not_fault_of_carried passed carried
    obtain ⟨a, given⟩ := (kind.reads v).exists_gives.mpr ⟨formed, succeeds⟩
    exact ⟨a, given, (kind.carried v a given).unique carried⟩

end PayloadRecord

theorem UplinkFrame.payloadRecord :
    PayloadRecord UplinkFrame UplinkFrame.schema UplinkFrame.ofJson
      UplinkFrame.otherConversions UplinkFrame.octets where
  reads := UplinkFrame.reads_ofJson
  carried v f given := by
    unfold UplinkFrame.ofJson at given
    split at given
    · next m record =>
      obtain ⟨-, -, -, -, -, -, -, -, -, -, -, octets⟩ := UplinkFrame.gives_ofMembers.mp given
      obtain ⟨text, carried, spelled⟩ := gives_octets_iff.mp octets
      exact ⟨m, text, isRecord_iff.mpr record, carried, spelled⟩
    · cases given

theorem DownlinkCommand.payloadRecord :
    PayloadRecord DownlinkCommand DownlinkCommand.schema DownlinkCommand.ofJson
      DownlinkCommand.otherConversions DownlinkCommand.octets where
  reads := DownlinkCommand.reads_ofJson
  carried v c given := by
    unfold DownlinkCommand.ofJson at given
    split at given
    · next m record =>
      obtain ⟨-, -, -, -, -, -, -, -, -, -, -, -, octets, -⟩ :=
        DownlinkCommand.gives_ofMembers.mp given
      obtain ⟨text, carried, spelled⟩ := gives_octets_iff.mp octets
      exact ⟨m, text, isRecord_iff.mpr record, carried, spelled⟩
    · cases given

theorem exists_of_forall₂ {α β : Type} {related : α → β → Prop} {as : List α} {bs : List β}
    (all : List.Forall₂ related as bs) : ∀ a ∈ as, ∃ b, related a b := by
  induction all with
  | nil => exact nofun
  | cons first _ ih => exact List.forall_mem_cons.mpr ⟨⟨_, first⟩, ih⟩

namespace Body

/-- Everything in an uplink body is accepted, its radio payloads aside. -/
structure UplinkPasses (m : Members) (entries : List Json) (report : Option Json) : Prop extends
    UplinkForm m entries report where
  own : ∀ v, ("txpk", v) ∉ m
  others : ∀ v ∈ entries, OthersPass UplinkFrame.schema UplinkFrame.otherConversions v
  reportPasses : ∀ v ∈ report, ∀ fault, ¬RecordFault StatusReport.schema StatusReport.conversions v fault

structure DownlinkPasses (m : Members) (command : Json) : Prop extends DownlinkForm m command where
  noFrames : ∀ v, ("rxpk", v) ∉ m
  noStatus : ∀ v, ("stat", v) ∉ m
  others : OthersPass DownlinkCommand.schema DownlinkCommand.otherConversions command

section

variable {octets : List UInt8} {m : Members} {entries : List Json} {report : Option Json}
  {command : Json} {fault : Fault}

theorem carried_of_uplink {b : Body} (converted : ConvertedUplink entries report b) :
    List.Forall₂ (Carried UplinkFrame.schema) entries (b.frames.map UplinkFrame.octets) := by
  obtain ⟨frames, status, rfl, given, -⟩ := converted
  rw [List.forall₂_map_right_iff]
  exact given.imp fun v f => UplinkFrame.payloadRecord.carried v f

theorem decode_uplink_payloads (document : IsDocument octets (.object m))
    (passes : UplinkPasses m entries report) (ds : List (List UInt8)) :
    (∃ b, decode .uplink octets = .ok b ∧ b.frames.map UplinkFrame.octets = ds) ↔
      List.Forall₂ (Carried UplinkFrame.schema) entries ds := by
  have staged := staged_uplink document passes.own passes.toUplinkForm
  constructor
  · rintro ⟨b, decoded, rfl⟩
    exact carried_of_uplink ((staged.value b).mp decoded)
  · intro carried
    have frames : ∀ v ∈ entries, ∀ fault,
        ¬RecordFault UplinkFrame.schema UplinkFrame.conversions v fault := by
      intro v member fault
      obtain ⟨d, given⟩ := exists_of_forall₂ carried v member
      exact PayloadRecord.not_fault_of_carried (passes.others v member) given
    have succeeds : ∀ fails ∈ uplinkConversions entries report, ∀ fault, ¬fails fault := by
      rw [uplinkConversions, List.forall_mem_append, List.forall_mem_map, List.forall_mem_map]
      exact ⟨frames, fun v member => passes.reportPasses v (Option.mem_toList.mp member)⟩
    obtain ⟨b, decoded⟩ := staged.succeeds.mpr succeeds
    have known := carried_of_uplink ((staged.value b).mp decoded)
    have unique : Relator.RightUnique (Carried UplinkFrame.schema) := fun _ _ _ => Carried.unique
    exact ⟨b, decoded, List.right_unique_forall₂' unique known carried⟩

theorem decode_downlink_payload (document : IsDocument octets (.object m))
    (passes : DownlinkPasses m command) (d : List UInt8) :
    (∃ c, decode .downlink octets = .ok (downlink c) ∧ c.octets = d) ↔
      Carried DownlinkCommand.schema command d := by
  have staged := staged_downlink document passes.noFrames passes.noStatus passes.toDownlinkForm
  rw [← DownlinkCommand.payloadRecord.gives_iff passes.formed passes.others]
  refine exists_congr fun c => and_congr_left fun _ => ?_
  rw [staged.value]
  constructor
  · rintro ⟨c', given, same⟩
    cases same
    exact given
  · exact fun given => ⟨c, given, rfl⟩

theorem base64_of_uplink (document : IsDocument octets (.object m))
    (passes : UplinkPasses m entries report) (failed : decode .uplink octets = .error fault) :
    ∃ cause, fault = .body (.base64 cause) := by
  obtain ⟨fails, member, failed⟩ :=
    (((staged_uplink document passes.own passes.toUplinkForm).fails fault).mp failed).exists_mem
  rcases List.mem_append.mp member with member | member
  · obtain ⟨v, there, rfl⟩ := List.mem_map.mp member
    exact PayloadRecord.fault_of_passed (passes.others v there) failed
  · obtain ⟨v, there, rfl⟩ := List.mem_map.mp member
    exact absurd failed (passes.reportPasses v (Option.mem_toList.mp there) fault)

theorem base64_of_downlink (document : IsDocument octets (.object m))
    (passes : DownlinkPasses m command) (failed : decode .downlink octets = .error fault) :
    ∃ cause, fault = .body (.base64 cause) := by
  have staged := staged_downlink document passes.noFrames passes.noStatus passes.toDownlinkForm
  exact PayloadRecord.fault_of_passed passes.others (FirstOf.single.mp ((staged.fails fault).mp failed))

end

/-- Padding at the end of radio payloads may be missing, and nothing else may differ from what is written. In a
body in which everything else is accepted, each payload is read to the octets whose text it is; if one of them is
the text of no octets, the body is refused for its base64; and texts that are read to the same octets differ in
their padding only. -/
theorem decode_payloads (octets : List UInt8) (m : Members)
    (document : IsDocument octets (.object m)) :
    (∀ entries report, UplinkPasses m entries report →
      (∀ ds, (∃ b, decode .uplink octets = .ok b ∧ b.frames.map UplinkFrame.octets = ds) ↔
        List.Forall₂ (Carried UplinkFrame.schema) entries ds) ∧
      ((¬∃ ds, List.Forall₂ (Carried UplinkFrame.schema) entries ds) →
        ∃ cause, decode .uplink octets = .error (.body (.base64 cause)))) ∧
    (∀ command, DownlinkPasses m command →
      (∀ d, (∃ c, decode .downlink octets = .ok (downlink c) ∧ c.octets = d) ↔
        Carried DownlinkCommand.schema command d) ∧
      ((¬∃ d, Carried DownlinkCommand.schema command d) →
        ∃ cause, decode .downlink octets = .error (.body (.base64 cause)))) ∧
    ∀ s t d, Base64.Spells s d → Base64.Spells t d →
      s.toList.rdropWhile (· == '=') = t.toList.rdropWhile (· == '=') := by
  refine ⟨fun entries report passes => ⟨decode_uplink_payloads document passes, fun undecoded => ?_⟩,
    fun command passes => ⟨decode_downlink_payload document passes, fun undecoded => ?_⟩,
    fun s t d => Base64.Spells.stripped⟩
  · cases outcome : decode .uplink octets with
    | ok b =>
      exact absurd ⟨_, (decode_uplink_payloads document passes _).mp ⟨b, outcome, rfl⟩⟩ undecoded
    | error fault =>
      obtain ⟨cause, rfl⟩ := base64_of_uplink document passes outcome
      exact ⟨cause, rfl⟩
  · cases outcome : decode .downlink octets with
    | ok b =>
      have staged := staged_downlink document passes.noFrames passes.noStatus passes.toDownlinkForm
      obtain ⟨c, -, rfl⟩ := (staged.value b).mp outcome
      exact absurd ⟨_, (decode_downlink_payload document passes _).mp ⟨c, outcome, rfl⟩⟩ undecoded
    | error fault =>
      obtain ⟨cause, rfl⟩ := base64_of_downlink document passes outcome
      exact ⟨cause, rfl⟩

def payloadOnly (text : String) : Members :=
  [("modu", .text "FSK"), ("datr", .text "50000"), ("data", .text text)]

theorem othersPass_payloadOnly (text : String) :
    OthersPass UplinkFrame.schema UplinkFrame.otherConversions (.object (payloadOnly text)) ∧
      OthersPass DownlinkCommand.schema DownlinkCommand.otherConversions
        (.object (payloadOnly text)) := by
  have time (fault : Fault) : ¬(payloadOnly text).TimeFault Moment.readCompact fault := nofun
  have crc (fault : Fault) : ¬(payloadOnly text).CrcFault fault := nofun
  have modulation (fault : Fault) : ¬(payloadOnly text).ModulationFault fault := by
    rw [modulationFault_iff _ rfl]
    exact nofun
  have rate (fault : Fault) : ¬(payloadOnly text).RateFault fault := by
    rw [rateFault_iff _ rfl rfl]
    rintro ⟨_, ⟨⟩, ⟨⟨⟩, -⟩ | ⟨_, ⟨⟩, failed⟩⟩
    cases failed
  constructor <;> intro m record <;> cases record.unique (.inl rfl)
  · simp only [UplinkFrame.otherConversions, List.forall_mem_cons]
    exact ⟨time, crc, modulation, rate, nofun⟩
  · simp only [DownlinkCommand.otherConversions, List.forall_mem_cons]
    exact ⟨time, modulation, rate, nofun⟩

def halfPadded : Members :=
  [("rxpk", .array [.object (payloadOnly "AQ="), .object (payloadOnly "AQID")])]

def strayBits : Members := [("txpk", .object (payloadOnly "AR=="))]

theorem decode_payloads_halfPadded :
    (∃ b, decode .uplink (octetsOfText (Json.object halfPadded).compact) = .ok b ∧
      b.frames.map UplinkFrame.octets = [[1], [1, 2, 3]]) ∧
    ∃ cause, decode .downlink (octetsOfText (Json.object strayBits).compact) =
      .error (.body (.base64 cause)) := by
  have uplink : IsDocument (octetsOfText (Json.object halfPadded).compact) (.object halfPadded) :=
    parse?_eq_some.mp (parse?_compact (by decide))
  have downlink : IsDocument (octetsOfText (Json.object strayBits).compact) (.object strayBits) :=
    parse?_eq_some.mp (parse?_compact (by decide))
  have carried (text : String) (d : List UInt8) (spells : Base64.Spells text d) :
      Carried UplinkFrame.schema (.object (payloadOnly text)) d :=
    ⟨_, text, .inl rfl, .inl rfl, spells⟩
  have frame (text : String) : Formed UplinkFrame.schema (.object (payloadOnly text)) :=
    (UplinkFrame.reads_ofJson _).hasForm.mp ⟨_, rfl⟩
  have passes : UplinkPasses halfPadded [.object (payloadOnly "AQ="), .object (payloadOnly "AQID")]
      none := by
    refine ⟨⟨.inl rfl, .inl ⟨nofun, rfl⟩, ?_, nofun⟩, Members.has_eq_false.mp rfl, ?_, nofun⟩
    · exact List.forall_mem_cons.mpr ⟨frame _, List.forall_mem_singleton.mpr (frame _)⟩
    · exact List.forall_mem_cons.mpr ⟨(othersPass_payloadOnly _).1,
        List.forall_mem_singleton.mpr (othersPass_payloadOnly _).1⟩
  have command : DownlinkPasses strayBits (.object (payloadOnly "AR==")) :=
    ⟨⟨rfl, (DownlinkCommand.reads_ofJson _).hasForm.mp ⟨_, rfl⟩⟩, Members.has_eq_false.mp rfl,
      Members.has_eq_false.mp rfl, (othersPass_payloadOnly _).2⟩
  have stray : ¬∃ d, Carried DownlinkCommand.schema (.object (payloadOnly "AR==")) d := by
    rintro ⟨d, m, text, record, given, spells⟩
    cases record.unique (.inl rfl)
    cases given.unique (.inl rfl)
    have read := Base64.decode_octetsOfText.mpr spells
    rw [octetsOfText_eq] at read
    cases read
  have half : Base64.Spells "AQ=" [1] := ⟨1, by decide⟩
  have full : Base64.Spells "AQID" [1, 2, 3] := ⟨0, by decide⟩
  exact ⟨(((decode_payloads _ _ uplink).1 _ _ passes).1 _).mpr
      (.cons (carried _ _ half) (.cons (carried _ _ full) .nil)),
    ((decode_payloads _ _ downlink).2.1 _ command).2 stray⟩

end Body

end GatewayLink
