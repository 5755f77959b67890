import GatewayLink.Body.DownlinkCommand
import GatewayLink.Body.StatusReport
import GatewayLink.Body.UplinkFrame
import GatewayLink.Proofs.Body.Reading

/-! Reading back frames, reports and commands.
Each record is read back exactly if its floats survive and, for those in the compact layout, its moment
has a year of four digits. The other members, given or not, come back as they were. -/

namespace GatewayLink

open Json Json.Members Reading

/-- The moment has a year that the compact layout can be read back with. -/
def Moment.HasPlainYear (m : Moment) : Prop := 0 ≤ m.date.year ∧ m.date.year ≤ 9999

instance (m : Moment) : Decidable m.HasPlainYear := inferInstanceAs (Decidable (_ ∧ _))

def UplinkFrame.floats (f : UplinkFrame) : List Binary64 := f.frequency :: f.noiseRatio.toList

def StatusReport.floats (r : StatusReport) : List Binary64 :=
  r.latitude.toList ++ r.longitude.toList ++ [r.acknowledged]

def DownlinkCommand.floats (c : DownlinkCommand) : List Binary64 := [c.frequency]

theorem Moment.compact_readable {o : Option Moment} (fits : ∀ t ∈ o, t.fitsCompact = true) :
    (∀ t ∈ o, readCompact t.compactText = .ok t) ↔ ∀ t ∈ o, t.HasPlainYear :=
  forall₂_congr fun t member => readCompact_eq_ok_iff (fits t member)

section Time

variable {time : Option Moment} {fits : Moment → Bool} {cause : Moment → Fault}

theorem time_eq_ok :
    (match time with
      | some t => if fits t then .ok () else .error (cause t)
      | none => .ok () : Except Fault Unit) = .ok () ↔ ∀ t ∈ time, fits t = true := by
  cases time with
  | none => simp
  | some t => cases fit : fits t <;> simp [fit]

theorem time_eq_error {fault : Fault} :
    (match time with
      | some t => if fits t then .ok () else .error (cause t)
      | none => .ok () : Except Fault Unit) = .error fault ↔
      ∃ t, time = some t ∧ ¬fits t = true ∧ fault = cause t := by
  cases time with
  | none => simp
  | some t => cases fit : fits t <;> simp [fit, @eq_comm _ fault]

end Time

namespace UplinkFrame

theorem check_eq_ok {f : UplinkFrame} :
    f.check = .ok () ↔ ∀ t ∈ f.time, t.fitsCompact = true :=
  time_eq_ok

theorem gives_ofMembers {m : Members} {f : UplinkFrame} :
    (ofMembers m).Gives f ↔
      (m.moment Moment.readCompact "time").Gives f.time ∧
      m.word "tmst" = some f.counter ∧
      m.word "chan" = some f.channel ∧
      m.word "rfch" = some f.radioChain ∧
      m.float "freq" = some f.frequency ∧
      (Reading.convert (m.int32 "stat") CrcStatus.ofCode).Gives f.crc ∧
      (DataRate.read m).Gives f.dataRate ∧
      m.optional text? "codr" = some f.codingRate ∧
      m.int32 "rssi" = some f.strength ∧
      m.optional float? "lsnr" = some f.noiseRatio ∧
      m.word "size" = some f.size ∧
      (m.octets "data").Gives f.octets := by
  constructor
  · intro given
    obtain ⟨_, _, given, octets, step12⟩ := gives_seq.mp given
    obtain ⟨_, _, given, size, step11⟩ := gives_seq.mp given
    obtain ⟨_, _, given, noiseRatio, step10⟩ := gives_seq.mp given
    obtain ⟨_, _, given, strength, step9⟩ := gives_seq.mp given
    obtain ⟨_, _, given, codingRate, step8⟩ := gives_seq.mp given
    obtain ⟨_, _, given, dataRate, step7⟩ := gives_seq.mp given
    obtain ⟨_, _, given, crc, step6⟩ := gives_seq.mp given
    obtain ⟨_, _, given, frequency, step5⟩ := gives_seq.mp given
    obtain ⟨_, _, given, radioChain, step4⟩ := gives_seq.mp given
    obtain ⟨_, _, given, channel, step3⟩ := gives_seq.mp given
    obtain ⟨_, _, given, counter, step2⟩ := gives_seq.mp given
    obtain ⟨_, time, step1⟩ := gives_map.mp given
    subst step1 step2 step3 step4 step5 step6 step7 step8 step9 step10 step11 step12
    exact ⟨time, gives_plain.mp counter, gives_plain.mp channel, gives_plain.mp radioChain,
      gives_plain.mp frequency, crc, dataRate, gives_plain.mp codingRate, gives_plain.mp strength,
      gives_plain.mp noiseRatio, gives_plain.mp size, octets⟩
  · rintro ⟨time, counter, channel, radioChain, frequency, crc, dataRate, codingRate, strength,
      noiseRatio, size, octets⟩
    exact (time.map UplinkFrame.mk) |>.seq (gives_plain.mpr counter)
      |>.seq (gives_plain.mpr channel) |>.seq (gives_plain.mpr radioChain)
      |>.seq (gives_plain.mpr frequency) |>.seq crc |>.seq dataRate
      |>.seq (gives_plain.mpr codingRate) |>.seq (gives_plain.mpr strength)
      |>.seq (gives_plain.mpr noiseRatio) |>.seq (gives_plain.mpr size) |>.seq octets

@[simp] theorem reread?_code (crc : CrcStatus) :
    (Json.number (.integer crc.code)).reread? = some (.number (.integer crc.code)) := by
  cases crc <;> rfl

theorem crc_of_get? {m : Members} {crc : CrcStatus}
    (found : m.get? "stat" = some (.number (.integer crc.code))) :
    (Reading.convert (m.int32 "stat") CrcStatus.ofCode).Gives crc := by
  rw [gives_convert]
  cases crc with
  | passed => exact ⟨1, int32_of_get? found, rfl⟩
  | failed => exact ⟨-1, int32_of_get? found, rfl⟩
  | absent => exact ⟨0, int32_of_get? found, rfl⟩

theorem isSome_reread_toJson (f : UplinkFrame) : f.toJson.reread?.isSome = true := by
  refine isSome_reread_ofFields ?_
  simp only [DataRate.fields, List.cons_append, List.nil_append, List.forall_mem_cons,
    Option.forall_mem_map]
  simp

theorem readsBack_toJson {f : UplinkFrame} (checked : f.check = .ok ()) :
    ReadsBack f.toJson ofJson f ↔
      (∀ x ∈ f.floats, x.Survives) ∧ ∀ t ∈ f.time, t.HasPlainYear := by
  refine readsBack_ofFields f.isSome_reread_toJson fun m known => ?_
  have fromMembers : ofJson (.object m) = ofMembers m := rfl
  have time : (m.moment Moment.readCompact "time").Gives f.time ↔
      ∀ t ∈ f.time, t.HasPlainYear :=
    (known.moment rfl).trans (Moment.compact_readable (check_eq_ok.mp checked))
  have counter : m.word "tmst" = some f.counter := known.word rfl
  have channel : m.word "chan" = some f.channel := known.word rfl
  have radioChain : m.word "rfch" = some f.radioChain := known.word rfl
  have frequency : m.float "freq" = some f.frequency ↔ f.frequency.Survives := known.float rfl
  have crc : (Reading.convert (m.int32 "stat") CrcStatus.ofCode).Gives f.crc :=
    crc_of_get? (known.given rfl (reread?_code f.crc))
  have dataRate : (DataRate.read m).Gives f.dataRate := known.dataRate rfl rfl
  have codingRate : m.optional text? "codr" = some f.codingRate :=
    known.optional_text (by simp [DataRate.fields])
  have strength : m.int32 "rssi" = some f.strength := known.int32 rfl
  have noiseRatio : m.optional float? "lsnr" = some f.noiseRatio ↔
      ∀ x ∈ f.noiseRatio, x.Survives := known.optional_float (by simp [DataRate.fields])
  have size : m.word "size" = some f.size := known.word rfl
  have octets : (m.octets "data").Gives f.octets := known.octets rfl
  rw [fromMembers, gives_ofMembers, time, frequency, noiseRatio, floats, List.forall_mem_cons]
  simp only [Option.mem_toList]
  constructor
  · rintro ⟨plain, -, -, -, frequency, -, -, -, -, noiseRatio, -, -⟩
    exact ⟨⟨frequency, noiseRatio⟩, plain⟩
  · rintro ⟨⟨frequency, noiseRatio⟩, plain⟩
    exact ⟨plain, counter, channel, radioChain, frequency, crc, dataRate, codingRate, strength,
      noiseRatio, size, octets⟩

theorem depth_toJson (f : UplinkFrame) : f.toJson.depth ≤ 1 := by
  refine depth_ofFields ?_
  simp only [DataRate.fields, List.cons_append, List.nil_append, List.forall_mem_cons,
    Option.forall_mem_map]
  simp [depth]

end UplinkFrame

namespace StatusReport

theorem check_eq_ok {r : StatusReport} :
    r.check = .ok () ↔ ∀ t ∈ r.time, t.fitsExpanded = true :=
  time_eq_ok

theorem gives_ofMembers {m : Members} {r : StatusReport} :
    (ofMembers m).Gives r ↔
      (m.moment Moment.readExpanded "time").Gives r.time ∧
      m.optional float? "lati" = some r.latitude ∧
      m.optional float? "long" = some r.longitude ∧
      m.optional int32? "alti" = some r.altitude ∧
      m.word "rxnb" = some r.received ∧
      m.word "rxok" = some r.receivedIntact ∧
      m.word "rxfw" = some r.forwarded ∧
      m.float "ackr" = some r.acknowledged ∧
      m.word "dwnb" = some r.downlinks ∧
      m.word "txnb" = some r.emitted := by
  constructor
  · intro given
    obtain ⟨_, _, given, emitted, step10⟩ := gives_seq.mp given
    obtain ⟨_, _, given, downlinks, step9⟩ := gives_seq.mp given
    obtain ⟨_, _, given, acknowledged, step8⟩ := gives_seq.mp given
    obtain ⟨_, _, given, forwarded, step7⟩ := gives_seq.mp given
    obtain ⟨_, _, given, receivedIntact, step6⟩ := gives_seq.mp given
    obtain ⟨_, _, given, received, step5⟩ := gives_seq.mp given
    obtain ⟨_, _, given, altitude, step4⟩ := gives_seq.mp given
    obtain ⟨_, _, given, longitude, step3⟩ := gives_seq.mp given
    obtain ⟨_, _, given, latitude, step2⟩ := gives_seq.mp given
    obtain ⟨_, time, step1⟩ := gives_map.mp given
    subst step1 step2 step3 step4 step5 step6 step7 step8 step9 step10
    exact ⟨time, gives_plain.mp latitude, gives_plain.mp longitude, gives_plain.mp altitude,
      gives_plain.mp received, gives_plain.mp receivedIntact, gives_plain.mp forwarded,
      gives_plain.mp acknowledged, gives_plain.mp downlinks, gives_plain.mp emitted⟩
  · rintro ⟨time, latitude, longitude, altitude, received, receivedIntact, forwarded,
      acknowledged, downlinks, emitted⟩
    exact (time.map StatusReport.mk) |>.seq (gives_plain.mpr latitude)
      |>.seq (gives_plain.mpr longitude) |>.seq (gives_plain.mpr altitude)
      |>.seq (gives_plain.mpr received) |>.seq (gives_plain.mpr receivedIntact)
      |>.seq (gives_plain.mpr forwarded) |>.seq (gives_plain.mpr acknowledged)
      |>.seq (gives_plain.mpr downlinks) |>.seq (gives_plain.mpr emitted)

theorem isSome_reread_toJson (r : StatusReport) : r.toJson.reread?.isSome = true := by
  refine isSome_reread_ofFields ?_
  simp only [List.forall_mem_cons, Option.forall_mem_map]
  simp

theorem readsBack_toJson {r : StatusReport} (checked : r.check = .ok ()) :
    ReadsBack r.toJson ofJson r ↔ ∀ x ∈ r.floats, x.Survives := by
  have everyFloat : (∀ x ∈ r.floats, x.Survives) ↔ (∀ x ∈ r.latitude, x.Survives) ∧
      (∀ x ∈ r.longitude, x.Survives) ∧ r.acknowledged.Survives := by
    simp only [floats, List.forall_mem_append, List.forall_mem_singleton, Option.mem_toList,
      Option.mem_def, and_assoc]
  rw [everyFloat]
  refine readsBack_ofFields r.isSome_reread_toJson fun m known => ?_
  have fromMembers : ofJson (.object m) = ofMembers m := rfl
  have time : (m.moment Moment.readExpanded "time").Gives r.time :=
    (known.moment rfl).mpr fun t member =>
      Moment.readExpanded_expandedText (check_eq_ok.mp checked t member)
  have latitude : m.optional float? "lati" = some r.latitude ↔ ∀ x ∈ r.latitude, x.Survives :=
    known.optional_float (by simp)
  have longitude : m.optional float? "long" = some r.longitude ↔
      ∀ x ∈ r.longitude, x.Survives := known.optional_float (by simp)
  have altitude : m.optional int32? "alti" = some r.altitude := known.optional_int32 (by simp)
  have received : m.word "rxnb" = some r.received := known.word rfl
  have receivedIntact : m.word "rxok" = some r.receivedIntact := known.word rfl
  have forwarded : m.word "rxfw" = some r.forwarded := known.word rfl
  have acknowledged : m.float "ackr" = some r.acknowledged ↔ r.acknowledged.Survives :=
    known.float rfl
  have downlinks : m.word "dwnb" = some r.downlinks := known.word rfl
  have emitted : m.word "txnb" = some r.emitted := known.word rfl
  rw [fromMembers, gives_ofMembers, latitude, longitude, acknowledged]
  constructor
  · rintro ⟨-, latitude, longitude, -, -, -, -, acknowledged, -, -⟩
    exact ⟨latitude, longitude, acknowledged⟩
  · rintro ⟨latitude, longitude, acknowledged⟩
    exact ⟨time, latitude, longitude, altitude, received, receivedIntact, forwarded, acknowledged,
      downlinks, emitted⟩

theorem depth_toJson (r : StatusReport) : r.toJson.depth ≤ 1 := by
  refine depth_ofFields ?_
  simp only [List.forall_mem_cons, Option.forall_mem_map]
  simp [depth]

end StatusReport

namespace DownlinkCommand

theorem check_eq_ok {c : DownlinkCommand} :
    c.check = .ok () ↔ ∀ t ∈ c.time?, t.fitsCompact = true :=
  time_eq_ok

theorem gives_ofMembers {m : Members} {c : DownlinkCommand} :
    (ofMembers m).Gives c ↔
      m.optional bool? "imme" = some c.immediate? ∧
      m.optional word? "tmst" = some c.counter? ∧
      (m.moment Moment.readCompact "time").Gives c.time? ∧
      m.float "freq" = some c.frequency ∧
      m.word "rfch" = some c.radioChain ∧
      m.word "powe" = some c.power ∧
      (DataRate.read m).Gives c.dataRate ∧
      m.optional text? "codr" = some c.codingRate ∧
      m.optional word? "fdev" = some c.deviation? ∧
      m.optional bool? "ipol" = some c.inverted? ∧
      m.optional word? "prea" = some c.preamble? ∧
      m.word "size" = some c.size ∧
      (m.octets "data").Gives c.octets ∧
      m.optional bool? "ncrc" = some c.withoutCrc? := by
  constructor
  · intro given
    obtain ⟨_, _, given, withoutCrc, step14⟩ := gives_seq.mp given
    obtain ⟨_, _, given, octets, step13⟩ := gives_seq.mp given
    obtain ⟨_, _, given, size, step12⟩ := gives_seq.mp given
    obtain ⟨_, _, given, preamble, step11⟩ := gives_seq.mp given
    obtain ⟨_, _, given, inverted, step10⟩ := gives_seq.mp given
    obtain ⟨_, _, given, deviation, step9⟩ := gives_seq.mp given
    obtain ⟨_, _, given, codingRate, step8⟩ := gives_seq.mp given
    obtain ⟨_, _, given, dataRate, step7⟩ := gives_seq.mp given
    obtain ⟨_, _, given, power, step6⟩ := gives_seq.mp given
    obtain ⟨_, _, given, radioChain, step5⟩ := gives_seq.mp given
    obtain ⟨_, _, given, frequency, step4⟩ := gives_seq.mp given
    obtain ⟨_, _, given, time, step3⟩ := gives_seq.mp given
    obtain ⟨_, _, given, counter, step2⟩ := gives_seq.mp given
    obtain ⟨_, immediate, step1⟩ := gives_map.mp given
    subst step1 step2 step3 step4 step5 step6 step7 step8 step9 step10 step11 step12 step13 step14
    exact ⟨gives_plain.mp immediate, gives_plain.mp counter, time, gives_plain.mp frequency,
      gives_plain.mp radioChain, gives_plain.mp power, dataRate, gives_plain.mp codingRate,
      gives_plain.mp deviation, gives_plain.mp inverted, gives_plain.mp preamble, gives_plain.mp
      size, octets, gives_plain.mp withoutCrc⟩
  · rintro ⟨immediate, counter, time, frequency, radioChain, power, dataRate, codingRate,
      deviation, inverted, preamble, size, octets, withoutCrc⟩
    exact ((gives_plain.mpr immediate).map DownlinkCommand.mk) |>.seq (gives_plain.mpr counter) |>.seq time
      |>.seq (gives_plain.mpr frequency) |>.seq (gives_plain.mpr radioChain)
      |>.seq (gives_plain.mpr power) |>.seq dataRate |>.seq (gives_plain.mpr codingRate)
      |>.seq (gives_plain.mpr deviation) |>.seq (gives_plain.mpr inverted)
      |>.seq (gives_plain.mpr preamble) |>.seq (gives_plain.mpr size) |>.seq octets
      |>.seq (gives_plain.mpr withoutCrc)

theorem isSome_reread_toJson (c : DownlinkCommand) : c.toJson.reread?.isSome = true := by
  refine isSome_reread_ofFields ?_
  simp only [DataRate.fields, List.cons_append, List.nil_append, List.forall_mem_cons,
    Option.forall_mem_map]
  simp

theorem readsBack_toJson {c : DownlinkCommand} (checked : c.check = .ok ()) :
    ReadsBack c.toJson ofJson c ↔
      (∀ x ∈ c.floats, x.Survives) ∧ ∀ t ∈ c.time?, t.HasPlainYear := by
  rw [floats, List.forall_mem_singleton]
  refine readsBack_ofFields c.isSome_reread_toJson fun m known => ?_
  have fromMembers : ofJson (.object m) = ofMembers m := rfl
  have immediate : m.optional bool? "imme" = some c.immediate? :=
    known.optional_bool (by simp [DataRate.fields])
  have counter : m.optional word? "tmst" = some c.counter? :=
    known.optional_word (by simp [DataRate.fields])
  have time : (m.moment Moment.readCompact "time").Gives c.time? ↔
      ∀ t ∈ c.time?, t.HasPlainYear :=
    (known.moment (by simp [DataRate.fields])).trans
      (Moment.compact_readable (check_eq_ok.mp checked))
  have frequency : m.float "freq" = some c.frequency ↔ c.frequency.Survives := known.float rfl
  have radioChain : m.word "rfch" = some c.radioChain := known.word rfl
  have power : m.word "powe" = some c.power := known.word rfl
  have dataRate : (DataRate.read m).Gives c.dataRate := known.dataRate rfl rfl
  have codingRate : m.optional text? "codr" = some c.codingRate :=
    known.optional_text (by simp [DataRate.fields])
  have deviation : m.optional word? "fdev" = some c.deviation? :=
    known.optional_word (by simp [DataRate.fields])
  have inverted : m.optional bool? "ipol" = some c.inverted? :=
    known.optional_bool (by simp [DataRate.fields])
  have preamble : m.optional word? "prea" = some c.preamble? :=
    known.optional_word (by simp [DataRate.fields])
  have size : m.word "size" = some c.size := known.word rfl
  have octets : (m.octets "data").Gives c.octets := known.octets rfl
  have withoutCrc : m.optional bool? "ncrc" = some c.withoutCrc? :=
    known.optional_bool (by simp [DataRate.fields])
  rw [fromMembers, gives_ofMembers, time, frequency]
  constructor
  · rintro ⟨-, -, plain, frequency, -⟩
    exact ⟨frequency, plain⟩
  · rintro ⟨frequency, plain⟩
    exact ⟨immediate, counter, plain, frequency, radioChain, power, dataRate, codingRate,
      deviation, inverted, preamble, size, octets, withoutCrc⟩

theorem depth_toJson (c : DownlinkCommand) : c.toJson.depth ≤ 1 := by
  refine depth_ofFields ?_
  simp only [DataRate.fields, List.cons_append, List.nil_append, List.forall_mem_cons,
    Option.forall_mem_map]
  simp [depth]

end DownlinkCommand

end GatewayLink
