import GatewayLink.Body.DownlinkCommand
import GatewayLink.Body.StatusReport
import GatewayLink.Body.UplinkFrame
import GatewayLink.Proofs.Body.Stages

/-! Tables of the fields of frames, reports and commands.
A table names the form of each field and whether it may be null; every field may be missing. A record has its
form if each of its members fits its field. Only a few fields are converted: times, the check of a frame, the
modulation, the rate and the radio payload. -/

namespace GatewayLink

open Json

namespace Json

inductive Form where
  | text
  | flag
  | word
  | int32
  | float
  | any
  deriving DecidableEq

/-- The values of a form. Numbers out of range are none. -/
def Form.Admits : Form → Json → Prop
  | text, v => ∃ s, v = .text s
  | flag, v => ∃ b, v = .bool b
  | word, v => ∃ n : Nat, n < 0x100000000 ∧ v = .number (.integer n)
  | int32, v => ∃ i : Int, (-0x80000000 ≤ i ∧ i < 0x80000000) ∧ v = .number (.integer i)
  | float, v => ∃ n, v = .number n
  | any, _ => True

structure FieldForm where
  name : String
  form : Form
  nullable : Bool
  deriving DecidableEq

def FieldForm.Fits (field : FieldForm) (m : Members) : Prop :=
  ∀ v ∈ m.get? field.name, field.nullable = true ∧ v = .null ∨ field.form.Admits v

/-- The value is a record with these members: an object, or an array of the first of its fields. -/
def IsRecord (table : List FieldForm) (v : Json) (m : Members) : Prop :=
  v = .object m ∨
    ∃ items, v = .array items ∧ items.length ≤ table.length ∧ m = (table.map FieldForm.name).zip items

/-- The value is a record each of whose members fits. -/
def Formed (table : List FieldForm) (v : Json) : Prop :=
  ∃ m, IsRecord table v m ∧ ∀ field ∈ table, field.Fits m

/-- The fault of the first conversion of a record that fails. -/
def RecordFault (table : List FieldForm) (conversions : Members → List (Fault → Prop)) (v : Json)
    (fault : Fault) : Prop :=
  ∃ m, IsRecord table v m ∧ FirstOf (conversions m) fault

theorem isRecord_iff {table : List FieldForm} {v : Json} {m : Members} :
    IsRecord table v m ↔ v.recordMembers? (table.map FieldForm.name) = some m := by
  cases v <;> simp [IsRecord, recordMembers?, eq_comm]

def Members.Absent (m : Members) (key : String) : Prop := ∀ v ∈ m.get? key, v = .null

theorem isSome_text? {v : Json} : v.text?.isSome = true ↔ Form.text.Admits v := by
  cases v <;> simp [text?, Form.Admits]

theorem isSome_bool? {v : Json} : v.bool?.isSome = true ↔ Form.flag.Admits v := by
  cases v <;> simp [bool?, Form.Admits]

theorem isSome_float? {v : Json} : v.float?.isSome = true ↔ Form.float.Admits v := by
  cases v <;> simp [float?, Form.Admits]

theorem isSome_int32? {v : Json} : v.int32?.isSome = true ↔ Form.int32.Admits v := by
  cases v with
  | number n => cases n <;> simp [int32?, Form.Admits]
  | _ => simp [int32?, Form.Admits]

theorem int32?_eq_some {v : Json} {i : Int32} : v.int32? = some i ↔ v = ofInt32 i := by
  constructor
  · intro read
    unfold int32? at read
    split at read
    · next j =>
      split at read
      · next range =>
        rw [← Option.some.inj read, ofInt32,
          Int32.toInt_ofInt_of_le (by omega) (by omega)]
      · cases read
    · cases read
  · rintro rfl
    exact int32?_ofInt32 i

theorem word?_eq_some {v : Json} {n : UInt32} : v.word? = some n ↔ v = ofWord n := by
  constructor
  · intro read
    unfold word? at read
    split at read
    · next i =>
      split at read
      · next range =>
        rw [← Option.some.inj read, ofWord, UInt32.toNat_ofNat_of_lt' (by simp only [UInt32.size]; omega),
          Int.toNat_of_nonneg range.1]
      · cases read
    · cases read
  · rintro rfl
    exact word?_ofWord n

theorem isSome_word? {v : Json} : v.word?.isSome = true ↔ Form.word.Admits v := by
  cases v with
  | number n =>
    cases n with
    | integer i =>
      simp only [word?, Form.Admits, Option.isSome_ite, Json.number.injEq, Number.integer.injEq]
      constructor
      · rintro ⟨low, high⟩
        exact ⟨i.toNat, by omega, by omega⟩
      · rintro ⟨n, high, rfl⟩
        omega
    | float x => simp [word?, Form.Admits]
  | _ => simp [word?, Form.Admits]

section Members

variable {α : Type} {form : Json → Option α} {kind : Form} {m : Members}

theorem isSome_optional (admits : ∀ v, (form v).isSome = true ↔ kind.Admits v) (key : String) :
    (m.optional form key).isSome = true ↔ (FieldForm.mk key kind true).Fits m := by
  simp only [Members.optional, FieldForm.Fits]
  cases m.get? key with
  | none => simp
  | some v => cases v <;> simp [admits]

theorem isSome_withDefault (admits : ∀ v, (form v).isSome = true ↔ kind.Admits v) (default : α)
    (key : String) :
    (m.withDefault form default key).isSome = true ↔ (FieldForm.mk key kind false).Fits m := by
  simp only [Members.withDefault, FieldForm.Fits]
  cases m.get? key with
  | none => simp
  | some v => simp [admits]

theorem optional_eq_some_none {key : String} : m.optional form key = some none ↔ m.Absent key := by
  simp only [Members.optional, Members.Absent]
  cases m.get? key with
  | none => simp
  | some v => cases v <;> simp

end Members

theorem text?_eq_some {v : Json} {s : String} : v.text? = some s ↔ v = .text s := by
  cases v <;> simp [text?]

theorem optional_text?_eq_some {m : Members} {key s : String} :
    m.optional text? key = some (some s) ↔ m.get? key = some (.text s) := by
  simp only [Members.optional]
  cases m.get? key with
  | none => simp
  | some v => cases v <;> simp [text?]

theorem optional_some_eq_some {m : Members} {key : String} {v : Json} :
    m.optional some key = some (some v) ↔ v ≠ .null ∧ m.get? key = some v := by
  simp only [Members.optional]
  cases m.get? key with
  | none => simp
  | some w =>
    cases w with
    | null =>
      simp only [Option.some.injEq, reduceCtorEq, false_iff, not_and]
      exact fun value same => value same.symm
    | _ =>
      simp only [Option.map_some, Option.some.injEq]
      refine ⟨fun same => ⟨?_, same⟩, And.right⟩
      rw [← same]
      simp

def Members.TimeFault (read : String → Except Moment.Fault Moment) (m : Members) (fault : Fault) :
    Prop :=
  ∃ text cause, m.get? "time" = some (.text text) ∧ read text = .error cause ∧
    fault = .timestamp text cause

def Members.OctetsFault (m : Members) (fault : Fault) : Prop :=
  ∃ text cause, m.get? "data" = some (.text text) ∧
    Base64.decode (octetsOfText text) = .error cause ∧ fault = .body (.base64 cause)

def Members.ModulationFault (m : Members) (fault : Fault) : Prop :=
  ∃ name, (m.get? "modu" = some (.text name) ∨ m.Absent "modu" ∧ name = "") ∧
    (∀ modulation : Modulation, modulation.text ≠ name) ∧ fault = .modulation name

def Members.RateFault (m : Members) (fault : Fault) : Prop :=
  ∃ modulation : Modulation, m.get? "modu" = some (.text modulation.text) ∧
    (m.Absent "datr" ∧ fault = .body .noDataRate ∨
      ∃ v, v ≠ .null ∧ m.get? "datr" = some v ∧ DataRate.ofJson modulation v = .error fault)

def Members.CrcFault (m : Members) (fault : Fault) : Prop :=
  ∃ code : Int32, m.get? "stat" = some (ofInt32 code) ∧
    (∀ crc : CrcStatus, crc.code ≠ code.toInt) ∧ fault = .body (.crcStatus code.toInt)

end Json

open Json Reading

namespace UplinkFrame

def schema : List FieldForm :=
  [⟨"time", .text, true⟩, ⟨"tmst", .word, false⟩, ⟨"chan", .word, false⟩, ⟨"rfch", .word, false⟩,
    ⟨"freq", .float, false⟩, ⟨"stat", .int32, false⟩, ⟨"modu", .text, true⟩, ⟨"datr", .any, true⟩,
    ⟨"codr", .text, true⟩, ⟨"rssi", .int32, false⟩, ⟨"lsnr", .float, true⟩, ⟨"size", .word, false⟩,
    ⟨"data", .text, false⟩]

/-- The conversions of a frame, in the order in which they are tried. -/
def conversions (m : Members) : List (Fault → Prop) :=
  [m.TimeFault Moment.readCompact, m.CrcFault, m.ModulationFault, m.RateFault, m.OctetsFault]

end UplinkFrame

namespace StatusReport

def schema : List FieldForm :=
  [⟨"time", .text, true⟩, ⟨"lati", .float, true⟩, ⟨"long", .float, true⟩, ⟨"alti", .int32, true⟩,
    ⟨"rxnb", .word, false⟩, ⟨"rxok", .word, false⟩, ⟨"rxfw", .word, false⟩, ⟨"ackr", .float, false⟩,
    ⟨"dwnb", .word, false⟩, ⟨"txnb", .word, false⟩]

def conversions (m : Members) : List (Fault → Prop) := [m.TimeFault Moment.readExpanded]

end StatusReport

namespace DownlinkCommand

def schema : List FieldForm :=
  [⟨"imme", .flag, true⟩, ⟨"tmst", .word, true⟩, ⟨"time", .text, true⟩, ⟨"freq", .float, false⟩,
    ⟨"rfch", .word, false⟩, ⟨"powe", .word, false⟩, ⟨"modu", .text, true⟩, ⟨"datr", .any, true⟩,
    ⟨"codr", .text, true⟩, ⟨"fdev", .word, true⟩, ⟨"ipol", .flag, true⟩, ⟨"prea", .word, true⟩,
    ⟨"size", .word, false⟩, ⟨"data", .text, false⟩, ⟨"ncrc", .flag, true⟩]

def conversions (m : Members) : List (Fault → Prop) :=
  [m.TimeFault Moment.readCompact, m.ModulationFault, m.RateFault, m.OctetsFault]

end DownlinkCommand

theorem CrcStatus.ofCode_eq_error {code : Int32} {fault : Fault} :
    ofCode code = .error fault ↔
      (∀ crc : CrcStatus, crc.code ≠ code.toInt) ∧ fault = .body (.crcStatus code.toInt) := by
  have codes : (∀ crc : CrcStatus, crc.code ≠ code.toInt) ↔ code ≠ 1 ∧ code ≠ -1 ∧ code ≠ 0 := by
    have toInt (i : Int32) : i.toInt ≠ code.toInt ↔ code ≠ i := by
      rw [Ne, Int32.toInt_inj, eq_comm]
    rw [← toInt 1, ← toInt (-1), ← toInt 0]
    constructor
    · intro unknown
      exact ⟨unknown .passed, unknown .failed, unknown .absent⟩
    · rintro ⟨passed, failed, absent⟩ (_ | _ | _)
      · exact passed
      · exact failed
      · exact absent
  rw [codes, ofCode]
  split_ifs with passed failed absent
  · simp [passed]
  · simp [failed]
  · simp [absent]
  · simp [passed, failed, absent, eq_comm]

theorem DataRate.modulationOf_eq_ok {name : Option String} {modulation : Modulation} :
    modulationOf name = .ok modulation ↔ name = some modulation.text := by
  unfold modulationOf
  split
  · cases modulation <;> simp [Modulation.text]
  · cases modulation <;> simp [Modulation.text]
  · next lora fsk =>
    constructor
    · exact nofun
    · rintro rfl
      cases modulation
      · exact absurd rfl lora
      · exact absurd rfl fsk

theorem DataRate.modulationOf_eq_error {name : Option String} {fault : Fault} :
    modulationOf name = .error fault ↔
      (∀ modulation : Modulation, name ≠ some modulation.text) ∧
        fault = .modulation (name.getD "") := by
  constructor
  · intro failed
    refine ⟨fun modulation same => ?_, ?_⟩
    · rw [modulationOf_eq_ok.mpr same] at failed
      cases failed
    · unfold modulationOf at failed
      split at failed <;> cases failed
      rfl
  · rintro ⟨unknown, rfl⟩
    unfold modulationOf
    split
    · exact absurd rfl (unknown .lora)
    · exact absurd rfl (unknown .fsk)
    · rfl

section Members

variable (m : Members)

theorem reads_word (key : String) :
    Reads (.plain (m.word key)) ((FieldForm.mk key .word false).Fits m) [] :=
  (Reads.plain _).congr (isSome_withDefault (fun _ => isSome_word?) 0 key)

theorem reads_int32 (key : String) :
    Reads (.plain (m.int32 key)) ((FieldForm.mk key .int32 false).Fits m) [] :=
  (Reads.plain _).congr (isSome_withDefault (fun _ => isSome_int32?) 0 key)

theorem reads_float (key : String) :
    Reads (.plain (m.float key)) ((FieldForm.mk key .float false).Fits m) [] :=
  (Reads.plain _).congr (isSome_withDefault (fun _ => isSome_float?) Binary64.zero key)

theorem reads_optional {α : Type} {form : Json → Option α} {kind : Form}
    (admits : ∀ v, (form v).isSome = true ↔ kind.Admits v) (key : String) :
    Reads (.plain (m.optional form key)) ((FieldForm.mk key kind true).Fits m) [] :=
  (Reads.plain _).congr (isSome_optional admits key)

theorem reads_moment (read : String → Except Moment.Fault Moment) :
    Reads (m.moment read "time") ((FieldForm.mk "time" .text true).Fits m) [m.TimeFault read] := by
  have told : (fun fault => ∃ o, m.optional text? "time" = some o ∧
      ifPresent (fun value => (read value).mapError (Fault.timestamp value)) o = .error fault) =
        m.TimeFault read := by
    funext fault
    refine propext ⟨?_, ?_⟩
    · rintro ⟨o, found, failed⟩
      cases o with
      | none => cases failed
      | some text =>
        cases outcome : read text with
        | ok t => simp [ifPresent, outcome, Except.mapError, Except.map] at failed
        | error cause =>
          simp only [ifPresent, outcome, Except.mapError, Except.map, Except.error.injEq] at failed
          exact ⟨text, cause, optional_text?_eq_some.mp found, outcome, failed.symm⟩
    · rintro ⟨text, cause, found, outcome, rfl⟩
      refine ⟨some text, optional_text?_eq_some.mpr found, ?_⟩
      simp [ifPresent, outcome, Except.mapError, Except.map]
  rw [← told]
  exact (Reads.convert _ _).congr (isSome_optional (fun _ => isSome_text?) "time")

theorem reads_octets :
    Reads (m.octets "data") ((FieldForm.mk "data" .text false).Fits m) [m.OctetsFault] := by
  have told : (fun fault => ∃ text, m.text "data" = some text ∧
      ((Base64.decode (octetsOfText text)).mapError fun cause => Fault.body (.base64 cause)) =
        .error fault) = m.OctetsFault := by
    funext fault
    refine propext ⟨?_, ?_⟩
    · rintro ⟨text, found, failed⟩
      cases outcome : Base64.decode (octetsOfText text) with
      | ok octets => simp [outcome, Except.mapError] at failed
      | error cause =>
        simp only [outcome, Except.mapError, Except.error.injEq] at failed
        refine ⟨text, cause, ?_, outcome, failed.symm⟩
        unfold Members.text Members.withDefault at found
        cases there : m.get? "data" with
        | none =>
          -- without the member there is no octet, so nothing to fail
          have empty : Base64.decode (octetsOfText "") = .ok [] := by
            rw [octetsOfText_eq]
            rfl
          rw [there] at found
          cases found
          rw [empty] at outcome
          cases outcome
        | some v =>
          rw [there] at found
          rw [text?_eq_some.mp found]
    · rintro ⟨text, cause, found, outcome, rfl⟩
      refine ⟨text, by simp [Members.text, Members.withDefault, found, text?], ?_⟩
      simp [outcome, Except.mapError]
  rw [← told]
  exact (Reads.convert _ _).congr (isSome_withDefault (fun _ => isSome_text?) "" "data")

theorem reads_crc :
    Reads (.convert (m.int32 "stat") CrcStatus.ofCode) ((FieldForm.mk "stat" .int32 false).Fits m)
      [m.CrcFault] := by
  have told : (fun fault => ∃ code, m.int32 "stat" = some code ∧
      CrcStatus.ofCode code = .error fault) = m.CrcFault := by
    funext fault
    refine propext ⟨?_, ?_⟩
    · rintro ⟨code, found, failed⟩
      obtain ⟨unknown, rfl⟩ := CrcStatus.ofCode_eq_error.mp failed
      unfold Members.int32 Members.withDefault at found
      cases there : m.get? "stat" with
      | none =>
        rw [there] at found
        cases found
        exact absurd rfl (unknown .absent)
      | some v =>
        rw [there] at found
        exact ⟨code, by rw [there, int32?_eq_some.mp found], unknown, rfl⟩
    · rintro ⟨code, found, unknown, rfl⟩
      exact ⟨code, Members.int32_of_get? found, CrcStatus.ofCode_eq_error.mpr ⟨unknown, rfl⟩⟩
  rw [← told]
  exact (Reads.convert _ _).congr (isSome_withDefault (fun _ => isSome_int32?) 0 "stat")

theorem modulationFault_iff {modu : Option String} {fault : Fault}
    (found : m.optional text? "modu" = some modu) :
    m.ModulationFault fault ↔ DataRate.modulationOf modu = .error fault := by
  rw [DataRate.modulationOf_eq_error]
  cases modu with
  | none =>
    have absent := optional_eq_some_none.mp found
    constructor
    · rintro ⟨name, given | ⟨-, rfl⟩, -, rfl⟩
      · cases absent _ given
      · exact ⟨nofun, rfl⟩
    · rintro ⟨-, rfl⟩
      exact ⟨"", .inr ⟨absent, rfl⟩, by rintro (_ | _) <;> decide, rfl⟩
  | some name =>
    have given := optional_text?_eq_some.mp found
    constructor
    · rintro ⟨name', given' | ⟨absent, -⟩, unknown, rfl⟩
      · cases given.symm.trans given'
        exact ⟨fun modulation same => unknown modulation (Option.some.inj same).symm, rfl⟩
      · cases absent _ given
    · rintro ⟨unknown, rfl⟩
      exact ⟨name, .inl given, fun modulation same => unknown modulation (congrArg some same.symm), rfl⟩

theorem rateFault_iff {modu : Option String} {datr : Option Json} {fault : Fault}
    (found : m.optional text? "modu" = some modu) (there : m.optional some "datr" = some datr) :
    m.RateFault fault ↔ ∃ modulation, DataRate.modulationOf modu = .ok modulation ∧
      (datr = none ∧ fault = .body .noDataRate ∨
        ∃ v, datr = some v ∧ DataRate.ofJson modulation v = .error fault) := by
  have name (modulation : Modulation) : m.get? "modu" = some (.text modulation.text) ↔
      DataRate.modulationOf modu = .ok modulation := by
    rw [DataRate.modulationOf_eq_ok, ← optional_text?_eq_some, found, Option.some.injEq]
  have value (v : Json) : (v ≠ .null ∧ m.get? "datr" = some v) ↔ datr = some v := by
    rw [← optional_some_eq_some, there, Option.some.injEq]
  have absent : m.Absent "datr" ↔ datr = none := by
    rw [← optional_eq_some_none, there, Option.some.injEq]
  simp only [Members.RateFault, name, absent, ← and_assoc, value]

theorem reads_dataRate :
    Reads (DataRate.read m)
      ((FieldForm.mk "modu" .text true).Fits m ∧ (FieldForm.mk "datr" .any true).Fits m)
      [m.ModulationFault, m.RateFault] := by
  have modu : (m.optional text? "modu").isSome = true ↔ (FieldForm.mk "modu" .text true).Fits m :=
    isSome_optional (fun _ => isSome_text?) "modu"
  have datr : (m.optional some "datr").isSome = true ↔ (FieldForm.mk "datr" .any true).Fits m :=
    isSome_optional (fun _ => by simp [Form.Admits]) "datr"
  have both := Reads.convert ((m.optional text? "modu").bind fun modu =>
    (m.optional some "datr").map fun datr => (modu, datr)) fun p => DataRate.ofMembers p.1 p.2
  refine ⟨both.hasForm.trans ?_, fun form fault => (both.fails form fault).trans ?_⟩
  · rw [← modu, ← datr]
    cases m.optional text? "modu" <;> simp
  · have present := both.hasForm.mp form
    cases found : m.optional text? "modu" with
    | none => simp [found] at present
    | some modu =>
      cases there : m.optional some "datr" with
      | none => simp [found, there] at present
      | some datr =>
        simp only [FirstOf.cons, modulationFault_iff m found, rateFault_iff m found there]
        cases named : DataRate.modulationOf modu with
        | error cause => simp [DataRate.ofMembers, named]
        | ok modulation => cases datr <;> simp [DataRate.ofMembers, named, eq_comm]

end Members

theorem reads_record {α : Type} {table : List FieldForm} {read : Json → Reading α}
    {ofMembers : Members → Reading α} {conversions : Members → List (Fault → Prop)}
    (known : ∀ m, Reads (ofMembers m) (∀ field ∈ table, field.Fits m) (conversions m))
    (reads : ∀ v, read v =
      (v.recordMembers? (table.map FieldForm.name)).elim .wrongForm ofMembers) (v : Json) :
    Reads (read v) (Formed table v) [RecordFault table conversions v] := by
  rw [reads]
  cases given : v.recordMembers? (table.map FieldForm.name) with
  | none =>
    have unread : ¬(wrongForm : Reading α).HasForm := by
      rintro ⟨outcome, known⟩
      cases known
    have unformed : ¬Formed table v := by
      rintro ⟨m, record, -⟩
      rw [isRecord_iff, given] at record
      cases record
    exact ⟨iff_of_false unread unformed, fun form => absurd form unread⟩
  | some m =>
    have same (m' : Members) : IsRecord table v m' ↔ m' = m := by
      rw [isRecord_iff, given, Option.some.injEq, eq_comm]
    refine ⟨(known m).hasForm.trans ?_, fun form fault => ((known m).fails form fault).trans ?_⟩
    · simp [Formed, same]
    · simp [FirstOf.single, RecordFault, same]

theorem UplinkFrame.reads_ofMembers (m : Members) :
    Reads (UplinkFrame.ofMembers m) (∀ field ∈ UplinkFrame.schema, field.Fits m)
      (UplinkFrame.conversions m) := by
  have chain := ((reads_moment m Moment.readCompact).map UplinkFrame.mk)
    |>.seq (reads_word m "tmst") |>.seq (reads_word m "chan") |>.seq (reads_word m "rfch")
    |>.seq (reads_float m "freq") |>.seq (reads_crc m) |>.seq (reads_dataRate m)
    |>.seq (reads_optional m (fun _ => isSome_text?) "codr") |>.seq (reads_int32 m "rssi")
    |>.seq (reads_optional m (fun _ => isSome_float?) "lsnr") |>.seq (reads_word m "size")
    |>.seq (reads_octets m)
  refine chain.congr ?_
  simp only [UplinkFrame.schema, List.forall_mem_cons, and_assoc]
  simp

theorem UplinkFrame.reads_ofJson (v : Json) :
    Reads (UplinkFrame.ofJson v) (Formed UplinkFrame.schema v)
      [RecordFault UplinkFrame.schema UplinkFrame.conversions v] := by
  have names : UplinkFrame.schema.map FieldForm.name = UplinkFrame.fieldNames := rfl
  refine reads_record UplinkFrame.reads_ofMembers (fun v => ?_) v
  rw [UplinkFrame.ofJson, names]
  cases v.recordMembers? UplinkFrame.fieldNames <;> rfl

theorem StatusReport.reads_ofMembers (m : Members) :
    Reads (StatusReport.ofMembers m) (∀ field ∈ StatusReport.schema, field.Fits m)
      (StatusReport.conversions m) := by
  have chain := ((reads_moment m Moment.readExpanded).map StatusReport.mk)
    |>.seq (reads_optional m (fun _ => isSome_float?) "lati")
    |>.seq (reads_optional m (fun _ => isSome_float?) "long")
    |>.seq (reads_optional m (fun _ => isSome_int32?) "alti") |>.seq (reads_word m "rxnb")
    |>.seq (reads_word m "rxok") |>.seq (reads_word m "rxfw") |>.seq (reads_float m "ackr")
    |>.seq (reads_word m "dwnb") |>.seq (reads_word m "txnb")
  refine chain.congr ?_
  simp only [StatusReport.schema, List.forall_mem_cons, and_assoc]
  simp

theorem StatusReport.reads_ofJson (v : Json) :
    Reads (StatusReport.ofJson v) (Formed StatusReport.schema v)
      [RecordFault StatusReport.schema StatusReport.conversions v] := by
  have names : StatusReport.schema.map FieldForm.name = StatusReport.fieldNames := rfl
  refine reads_record StatusReport.reads_ofMembers (fun v => ?_) v
  rw [StatusReport.ofJson, names]
  cases v.recordMembers? StatusReport.fieldNames <;> rfl

theorem DownlinkCommand.reads_ofMembers (m : Members) :
    Reads (DownlinkCommand.ofMembers m) (∀ field ∈ DownlinkCommand.schema, field.Fits m)
      (DownlinkCommand.conversions m) := by
  have chain := ((reads_optional m (fun _ => isSome_bool?) "imme").map DownlinkCommand.mk)
    |>.seq (reads_optional m (fun _ => isSome_word?) "tmst")
    |>.seq (reads_moment m Moment.readCompact) |>.seq (reads_float m "freq")
    |>.seq (reads_word m "rfch") |>.seq (reads_word m "powe") |>.seq (reads_dataRate m)
    |>.seq (reads_optional m (fun _ => isSome_text?) "codr")
    |>.seq (reads_optional m (fun _ => isSome_word?) "fdev")
    |>.seq (reads_optional m (fun _ => isSome_bool?) "ipol")
    |>.seq (reads_optional m (fun _ => isSome_word?) "prea") |>.seq (reads_word m "size")
    |>.seq (reads_octets m) |>.seq (reads_optional m (fun _ => isSome_bool?) "ncrc")
  refine chain.congr ?_
  simp only [DownlinkCommand.schema, List.forall_mem_cons, and_assoc]
  simp

theorem DownlinkCommand.reads_ofJson (v : Json) :
    Reads (DownlinkCommand.ofJson v) (Formed DownlinkCommand.schema v)
      [RecordFault DownlinkCommand.schema DownlinkCommand.conversions v] := by
  have names : DownlinkCommand.schema.map FieldForm.name = DownlinkCommand.fieldNames := rfl
  refine reads_record DownlinkCommand.reads_ofMembers (fun v => ?_) v
  rw [DownlinkCommand.ofJson, names]
  cases v.recordMembers? DownlinkCommand.fieldNames <;> rfl

end GatewayLink
