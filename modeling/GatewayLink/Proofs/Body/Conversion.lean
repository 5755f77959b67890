import GatewayLink.Body.Basic
import GatewayLink.Proofs.Body.Schema
import GatewayLink.Proofs.Json.Grammar

/-! All or nothing: what decoding a body gives.
First every entry of `rxpk`, the report and the command must have their form, whatever their conversions would
give. Then the entries are converted in order, and the report behind them. If all succeed, the body holds what
the entries give, one for each and in their order; otherwise the first failing conversion of the first failing
entry is reported. -/

namespace GatewayLink

open Json Reading

theorem Json.Members.has_eq_true {m : Members} {key : String} :
    m.has key = true ↔ ∃ v, (key, v) ∈ m := by
  induction m with
  | nil => simp [has]
  | cons member rest ih =>
    obtain ⟨k, w⟩ := member
    simp only [has, Members.get?, List.mem_cons, Prod.mk.injEq, exists_or] at ih ⊢
    rw [← ih]
    cases Members.get? key rest with
    | some v => simp
    | none =>
      by_cases same : k = key
      · simp [same]
      · simp [same, Ne.symm same]

theorem Json.Members.has_eq_false {m : Members} {key : String} :
    m.has key = false ↔ ∀ v, (key, v) ∉ m := by
  rw [← Bool.not_eq_true, has_eq_true, not_exists]

namespace Body

/-- The entries of `rxpk`; there are none if it is missing or null. -/
def Entries (m : Members) (entries : List Json) : Prop :=
  m.get? "rxpk" = some (.array entries) ∨ m.Absent "rxpk" ∧ entries = []

/-- The value of `stat`, unless it is missing or null. -/
def Report (m : Members) (report : Option Json) : Prop :=
  m.Absent "stat" ∧ report = none ∨ ∃ v, v ≠ .null ∧ m.get? "stat" = some v ∧ report = some v

/-- The records of an uplink body, each with its form. -/
structure UplinkForm (m : Members) (entries : List Json) (report : Option Json) : Prop where
  listed : Entries m entries
  reported : Report m report
  frames : ∀ v ∈ entries, Formed UplinkFrame.schema v
  status : ∀ v ∈ report, Formed StatusReport.schema v

structure DownlinkForm (m : Members) (command : Json) : Prop where
  given : m.get? "txpk" = some command
  formed : Formed DownlinkCommand.schema command

/-- The conversions of an uplink body in the order in which they are tried. -/
def uplinkConversions (entries : List Json) (report : Option Json) : List (Fault → Prop) :=
  entries.map (RecordFault UplinkFrame.schema UplinkFrame.conversions) ++
    report.toList.map (RecordFault StatusReport.schema StatusReport.conversions)

def downlinkConversions (command : Json) : List (Fault → Prop) :=
  [RecordFault DownlinkCommand.schema DownlinkCommand.conversions command]

/-- The body holds what the entries and the report give, one frame for each entry and in their order. -/
def ConvertedUplink (entries : List Json) (report : Option Json) (b : Body) : Prop :=
  ∃ frames status, b = ⟨frames, status, none⟩ ∧
    List.Forall₂ (fun v f => (UplinkFrame.ofJson v).Gives f) entries frames ∧
      Option.Rel (fun v r => (StatusReport.ofJson v).Gives r) report status

def ConvertedDownlink (command : Json) (b : Body) : Prop :=
  ∃ c, (DownlinkCommand.ofJson command).Gives c ∧ b = ⟨[], none, some c⟩

section Uplink

variable {m : Members} {entries : List Json} {report : Option Json}

theorem optional_array_iff :
    (∃ items, m.optional array? "rxpk" = some items ∧ items.getD [] = entries) ↔
      Entries m entries := by
  simp only [Members.optional, Entries, Members.Absent]
  cases m.get? "rxpk" with
  | none => simp [eq_comm]
  | some v => cases v <;> simp [array?, eq_comm]

theorem report_iff : Report m report ↔ m.optional some "stat" = some report := by
  cases report with
  | none => simp [Report, optional_eq_some_none]
  | some v => simp [Report, optional_some_eq_some]

theorem reads_readFrames (there : Entries m entries) :
    readFrames m = Reading.forEach UplinkFrame.ofJson entries := by
  obtain ⟨items, found, rfl⟩ := optional_array_iff.mpr there
  rw [readFrames, found]

theorem exists_entries_of_hasForm (form : (readFrames m).HasForm) : ∃ entries, Entries m entries := by
  unfold readFrames at form
  split at form
  · next items found => exact ⟨_, optional_array_iff.mp ⟨items, found, rfl⟩⟩
  · obtain ⟨outcome, known⟩ := form
    cases known

theorem exists_report (m : Members) : ∃ report, Report m report := by
  cases found : m.optional some "stat" with
  | some report => exact ⟨report, report_iff.mpr found⟩
  | none =>
    have always : (m.optional some "stat").isSome = true := by
      unfold Members.optional
      split <;> simp
    rw [found] at always
    cases always

theorem reads_readStatus (there : Report m report) :
    Reads (readStatus m) (∀ v ∈ report, Formed StatusReport.schema v)
      (report.toList.map (RecordFault StatusReport.schema StatusReport.conversions)) := by
  rw [report_iff] at there
  rw [readStatus, there]
  cases report with
  | none => exact (Reads.pure none).congr (by simp)
  | some v => exact ((StatusReport.reads_ofJson v).map some).congr (by simp)

theorem gives_readStatus_iff (there : Report m report) {status : Option StatusReport} :
    (readStatus m).Gives status ↔
      Option.Rel (fun v r => (StatusReport.ofJson v).Gives r) report status := by
  rw [report_iff] at there
  rw [readStatus, there]
  cases report with
  | none =>
    rw [gives_pure]
    cases status <;> simp
  | some v =>
    rw [gives_map]
    cases status <;> simp

theorem reads_uplink (entriesThere : Entries m entries) (reportThere : Report m report) :
    Reads (uplink <$> readFrames m <*> readStatus m)
      ((∀ v ∈ entries, Formed UplinkFrame.schema v) ∧ ∀ v ∈ report, Formed StatusReport.schema v)
      (uplinkConversions entries report) := by
  rw [reads_readFrames entriesThere]
  exact ((Reads.forEach UplinkFrame.reads_ofJson entries).map uplink).seq
    (reads_readStatus reportThere)

theorem hasForm_uplink_iff :
    (uplink <$> readFrames m <*> readStatus m).HasForm ↔
      ∃ entries report, UplinkForm m entries report := by
  constructor
  · intro form
    obtain ⟨entries, listed⟩ :=
      exists_entries_of_hasForm (hasForm_map.mp (hasForm_seq.mp form).1)
    obtain ⟨report, reported⟩ := exists_report m
    obtain ⟨frames, status⟩ := (reads_uplink listed reported).hasForm.mp form
    exact ⟨entries, report, listed, reported, frames, status⟩
  · rintro ⟨entries, report, listed, reported, frames, status⟩
    exact (reads_uplink listed reported).hasForm.mpr ⟨frames, status⟩

theorem gives_uplink_iff (formed : UplinkForm m entries report) {b : Body} :
    (uplink <$> readFrames m <*> readStatus m).Gives b ↔ ConvertedUplink entries report b := by
  rw [reads_readFrames formed.listed, gives_seq]
  constructor
  · rintro ⟨g, status, first, read, rfl⟩
    obtain ⟨frames, given, rfl⟩ := gives_map.mp first
    exact ⟨frames, status, rfl, gives_forEach_iff.mp given,
      (gives_readStatus_iff formed.reported).mp read⟩
  · rintro ⟨frames, status, rfl, given, read⟩
    exact ⟨uplink frames, status, (gives_forEach_iff.mpr given).map uplink,
      (gives_readStatus_iff formed.reported).mpr read, rfl⟩

end Uplink

theorem hasForm_readCommand_iff {m : Members} :
    (readCommand m).HasForm ↔ ∃ command, DownlinkForm m command := by
  unfold readCommand
  constructor
  · intro form
    split at form
    · next v given => exact ⟨v, given, (DownlinkCommand.reads_ofJson v).hasForm.mp form⟩
    · obtain ⟨outcome, known⟩ := form
      cases known
  · rintro ⟨v, given, formed⟩
    rw [given]
    exact (DownlinkCommand.reads_ofJson v).hasForm.mpr formed

/-- The outcome of a body whose records have their form: what the conversions give, if none fails, and the
fault of the first that does otherwise. -/
structure Staged (outcome : Except Fault Body) (converted : Body → Prop)
    (conversions : List (Fault → Prop)) : Prop where
  succeeds : (∃ b, outcome = .ok b) ↔ ∀ fails ∈ conversions, ∀ fault, ¬fails fault
  value : ∀ b, outcome = .ok b ↔ converted b
  fails : ∀ fault, outcome = .error fault ↔ FirstOf conversions fault

theorem staged_result {x : Reading Body} {formed : Prop} {conversions : List (Fault → Prop)}
    {converted : Body → Prop} (known : Reads x formed conversions) (holds : formed)
    (gives : ∀ b, x.Gives b ↔ converted b) : Staged x.result converted conversions := by
  have form := known.hasForm.mpr holds
  refine ⟨?_, fun b => result_eq_ok.trans (gives b), fun fault => ?_⟩
  · simp only [result_eq_ok, known.exists_gives, holds, true_and]
  · rw [result_eq_error, known.fails form]
    exact or_iff_right fun unformed => unformed.1 form

theorem decode_document {direction : Direction} {octets : List UInt8} {m : Members}
    (document : IsDocument octets (.object m)) : decode direction octets = ofMembers direction m := by
  rw [decode, parse?_eq_some.mpr document]

theorem ofMembers_uplink {m : Members} (own : ∀ v, ("txpk", v) ∉ m) :
    ofMembers .uplink m = (uplink <$> readFrames m <*> readStatus m).result := by
  rw [ofMembers, Members.has_eq_false.mpr own, if_neg Bool.false_ne_true]

theorem ofMembers_downlink {m : Members} (noFrames : ∀ v, ("rxpk", v) ∉ m)
    (noStatus : ∀ v, ("stat", v) ∉ m) :
    ofMembers .downlink m = (downlink <$> readCommand m).result := by
  rw [ofMembers, Members.has_eq_false.mpr noFrames, Members.has_eq_false.mpr noStatus,
    if_neg Bool.false_ne_true, if_neg Bool.false_ne_true]

theorem staged_uplink {octets : List UInt8} {m : Members} {entries : List Json} {report : Option Json}
    (document : IsDocument octets (.object m)) (own : ∀ v, ("txpk", v) ∉ m)
    (formed : UplinkForm m entries report) :
    Staged (decode .uplink octets) (ConvertedUplink entries report)
      (uplinkConversions entries report) := by
  rw [decode_document document, ofMembers_uplink own]
  exact staged_result (reads_uplink formed.listed formed.reported) ⟨formed.frames, formed.status⟩
    fun b => gives_uplink_iff formed

theorem staged_downlink {octets : List UInt8} {m : Members} {command : Json}
    (document : IsDocument octets (.object m)) (noFrames : ∀ v, ("rxpk", v) ∉ m)
    (noStatus : ∀ v, ("stat", v) ∉ m) (formed : DownlinkForm m command) :
    Staged (decode .downlink octets) (ConvertedDownlink command) (downlinkConversions command) := by
  rw [decode_document document, ofMembers_downlink noFrames noStatus, readCommand, formed.given]
  refine staged_result ((DownlinkCommand.reads_ofJson command).map downlink) formed.formed fun b => ?_
  rw [gives_map]
  simp only [ConvertedDownlink, downlink, eq_comm]

/-- A body without parts of the other direction is decoded in two stages. If a record has not its form, that is
the fault, whatever else is wrong. Otherwise it is all or nothing, and the first failure wins. -/
theorem decode_stages (octets : List UInt8) (m : Members) (document : IsDocument octets (.object m)) :
    ((∀ v, ("txpk", v) ∉ m) →
      ((¬∃ entries report, UplinkForm m entries report) →
        decode .uplink octets = .error (.body .form)) ∧
      ∀ entries report, UplinkForm m entries report →
        Staged (decode .uplink octets) (ConvertedUplink entries report)
          (uplinkConversions entries report)) ∧
    ((∀ v, ("rxpk", v) ∉ m) → (∀ v, ("stat", v) ∉ m) →
      ((¬∃ command, DownlinkForm m command) → decode .downlink octets = .error (.body .form)) ∧
      ∀ command, DownlinkForm m command →
        Staged (decode .downlink octets) (ConvertedDownlink command)
          (downlinkConversions command)) := by
  refine ⟨fun own => ⟨fun unformed => ?_, fun entries report => staged_uplink document own⟩,
    fun noFrames noStatus =>
      ⟨fun unformed => ?_, fun command => staged_downlink document noFrames noStatus⟩⟩
  · rw [decode_document document, ofMembers_uplink own]
    exact result_eq_error.mpr (.inl ⟨fun form => unformed (hasForm_uplink_iff.mp form), rfl⟩)
  · rw [decode_document document, ofMembers_downlink noFrames noStatus]
    refine result_eq_error.mpr (.inl ⟨fun form => unformed ?_, rfl⟩)
    exact hasForm_readCommand_iff.mp (hasForm_map.mp form)

/-- An entry that converts, two that do not, and a report that does not. -/
def faultyEntries : List Json :=
  [.object [("modu", .text "FSK"), ("datr", .text "50000")],
    .object [("modu", .text "SF7"), ("stat", ofInt32 7)], .object [("time", .text "now")]]

def faultyBody : Members :=
  [("rxpk", .array faultyEntries), ("stat", .object [("time", .text "now")])]

theorem decode_stages_second_entry :
    decode .uplink (octetsOfText (Json.object faultyBody).compact) =
      .error (.body (.crcStatus 7)) := by
  have document : IsDocument (octetsOfText (Json.object faultyBody).compact) (.object faultyBody) :=
    parse?_eq_some.mp (parse?_compact (by decide))
  have own : ∀ v, ("txpk", v) ∉ faultyBody := Members.has_eq_false.mp rfl
  have formed : UplinkForm faultyBody faultyEntries (some (.object [("time", .text "now")])) := by
    refine ⟨.inl rfl, .inr ⟨.object [("time", .text "now")], nofun, rfl, rfl⟩, ?_, ?_⟩
    · simp only [faultyEntries, List.forall_mem_cons]
      refine ⟨(UplinkFrame.reads_ofJson _).hasForm.mp ⟨_, rfl⟩,
        (UplinkFrame.reads_ofJson _).hasForm.mp ⟨_, rfl⟩,
        (UplinkFrame.reads_ofJson _).hasForm.mp ⟨_, rfl⟩, nofun⟩
    · rintro v ⟨⟩
      exact (StatusReport.reads_ofJson _).hasForm.mp ⟨_, rfl⟩
  have converts : (UplinkFrame.ofJson faultyEntries[0]).Gives
      ⟨none, 0, 0, 0, .zero, .absent, .fsk 50000, none, 0, none, 0, []⟩ := by
    rw [Gives]
    decide +kernel
  have first := ((UplinkFrame.reads_ofJson faultyEntries[0]).exists_gives.mp ⟨_, converts⟩).2 _
    List.mem_cons_self
  have second := FirstOf.single.mp
    (((UplinkFrame.reads_ofJson faultyEntries[1]).fails ⟨_, rfl⟩ (.body (.crcStatus 7))).mp rfl)
  exact ((((decode_stages _ _ document).1 own).2 _ _ formed).fails _).mpr
    (.later first (.here second))

end Body

end GatewayLink
