import GatewayLink.Body.Row
import GatewayLink.Proofs.Body.Lookup
import GatewayLink.Proofs.Json.Nesting

/-! Records as rows and as objects.
Reading a row by position is reading the object that names its values. So a body in which a record is a row is
decoded to what it gives with that object in its place, and a row with more values than fields spoils the body
that it stands in. -/

namespace GatewayLink

open Json Reading

namespace Json

/-- Each of these names has the value that the row has in its place. -/
def Members.NamesRow (m : Members) (names : List String) (row : List Json) : Prop :=
  ∀ (i : Nat) (name : String), names[i]? = some name → m.get? name = row[i]?

namespace Members.NamesRow

variable {m : Members} {names names' : List String} {row : List Json}

theorem front (known : m.NamesRow (names ++ names') row) : m.NamesRow names row := by
  intro i name there
  obtain ⟨inside, -⟩ := List.getElem?_eq_some_iff.mp there
  exact known i name (by rw [List.getElem?_append_left inside, there])

theorem back (known : m.NamesRow (names ++ names') row) :
    m.NamesRow names' (row.drop names.length) := by
  intro i name there
  rw [List.getElem?_drop]
  exact known _ name (by rw [List.getElem?_append_right (Nat.le_add_right _ i),
    Nat.add_sub_cancel_left, there])

theorem get?_none {name : String} (unnamed : name ∉ names) (row : List Json) :
    get? name (names.zip row) = none := by
  refine Option.eq_none_iff_forall_ne_some.mpr fun v found => unnamed ?_
  exact (List.of_mem_zip (mem_of_get? found)).1

theorem zip (distinct : names.Nodup) (row : List Json) : NamesRow (names.zip row) names row := by
  induction names generalizing row with
  | nil => exact nofun
  | cons first names ih =>
    obtain ⟨fresh, distinct⟩ := List.nodup_cons.mp distinct
    intro i name there
    cases row with
    | nil => rfl
    | cons v row =>
      rw [List.zip_cons_cons, get?]
      cases i with
      | zero =>
        cases there
        rw [get?_none fresh row]
        exact if_pos rfl
      | succ i =>
        have other : first ≠ name := fun same => fresh (same ▸ List.mem_of_getElem? there)
        rw [ih distinct row i name there, if_neg other, List.getElem?_cons_succ]
        cases row[i]? <;> rfl

end Members.NamesRow

end Json

namespace RowReader

variable {α β : Type}

theorem optionalValue_get? {form : Json → Option α} (key : String) (m : Members) :
    optionalValue form (m.get? key) = m.optional form key := by
  unfold Members.optional
  cases m.get? key with
  | none => rfl
  | some v => cases v <;> rfl

theorem valueOr_get? {form : Json → Option α} (default : α) (key : String) (m : Members) :
    valueOr default form (m.get? key) = m.withDefault form default key := by
  unfold Members.withDefault
  cases m.get? key <;> rfl

def Follows (names : List String) (r : RowReader α) (read : Members → Reading α) : Prop :=
  ∀ (row : List Json) (m : Members), m.NamesRow names row → r row = (read m, row.drop names.length)

namespace Follows

variable {names names' : List String} {r : RowReader α} {read : Members → Reading α}

theorem field (name : String) (read : Option Json → Reading α) :
    Follows [name] (RowReader.field read) fun m => read (m.get? name) := by
  intro row m known
  have first : m.get? name = row.head? := by rw [known 0 name rfl, List.head?_eq_getElem?]
  dsimp only
  rw [RowReader.field, first, List.length_singleton, List.drop_one]

theorem map (follows : Follows names r read) (f : α → β) :
    Follows names (f <$> r) fun m => f <$> read m := by
  intro row m known
  show ((f <$> (r row).1 : Reading β), (r row).2) = _
  rw [follows row m known]

theorem seq {f : RowReader (α → β)} {readf : Members → Reading (α → β)}
    (first : Follows names f readf) (second : Follows names' r read) :
    Follows (names ++ names') (f <*> r) fun m => readf m <*> read m := by
  intro row m known
  show (((f row).1 <*> (r (f row).2).1 : Reading β), (r (f row).2).2) = _
  rw [first row m known.front, second _ m known.back, List.drop_drop, List.length_append]

theorem whole (follows : Follows names r read) (distinct : names.Nodup) (row : List Json) :
    r.whole row =
      match (Json.array row).recordMembers? names with
      | some m => read m
      | none => .wrongForm := by
  unfold RowReader.whole
  rw [follows row _ (.zip distinct row), recordMembers?]
  split_ifs with fits
  · rw [List.drop_eq_nil_of_le fits]
  · obtain ⟨v, rest, left⟩ := List.exists_cons_of_ne_nil
      fun ended => fits (List.drop_eq_nil_iff.mp ended)
    rw [left]

theorem ofOptional (form : Json → Option α) (conversion : Option α → Except Fault β)
    (name : String) :
    Follows [name] (RowReader.field fun v => .convert (optionalValue form v) conversion)
      fun m => .convert (m.optional form name) conversion := by
  simpa only [optionalValue_get?] using field name fun v => .convert (optionalValue form v) conversion

theorem ofDefault (default : α) (form : Json → Option α) (conversion : α → Except Fault β)
    (name : String) :
    Follows [name] (RowReader.field fun v => .convert (valueOr default form v) conversion)
      fun m => .convert (m.withDefault form default name) conversion := by
  simpa only [valueOr_get?] using field name fun v => .convert (valueOr default form v) conversion

theorem optional (form : Json → Option α) (name : String) :
    Follows [name] (RowReader.optional form) fun m => .plain (m.optional form name) :=
  ofOptional form .ok name

theorem word (name : String) : Follows [name] RowReader.word fun m => .plain (m.word name) :=
  ofDefault 0 word? .ok name

theorem int32 (name : String) : Follows [name] RowReader.int32 fun m => .plain (m.int32 name) :=
  ofDefault 0 int32? .ok name

theorem float (name : String) : Follows [name] RowReader.float fun m => .plain (m.float name) :=
  ofDefault Binary64.zero float? .ok name

theorem moment (read : String → Except Moment.Fault Moment) (name : String) :
    Follows [name] (RowReader.moment read) fun m => m.moment read name :=
  ofOptional text? _ name

theorem crc (name : String) :
    Follows [name] RowReader.crc fun m => .convert (m.int32 name) CrcStatus.ofCode :=
  ofDefault 0 int32? CrcStatus.ofCode name

theorem octets (name : String) : Follows [name] RowReader.octets fun m => m.octets name :=
  ofDefault "" text? _ name

theorem dataRate : Follows ["modu", "datr"] RowReader.dataRate DataRate.read := by
  intro row m known
  have modu : m.get? "modu" = row.head? := by rw [known 0 "modu" rfl, List.head?_eq_getElem?]
  have datr : m.get? "datr" = row.tail.head? := by rw [known 1 "datr" rfl, List.head?_tail]
  have behind : row.tail.tail = row.drop 2 := by
    rw [← List.drop_one, ← List.drop_one, List.drop_drop]
  rw [DataRate.read, ← optionalValue_get?, ← optionalValue_get?, modu, datr, RowReader.dataRate,
    behind]
  rfl

end Follows

end RowReader

section Records

open RowReader

theorem UplinkFrame.follows_row : Follows fieldNames row ofMembers :=
  (Follows.moment Moment.readCompact "time").map UplinkFrame.mk
    |>.seq (.word "tmst") |>.seq (.word "chan") |>.seq (.word "rfch") |>.seq (.float "freq")
    |>.seq (.crc "stat") |>.seq .dataRate |>.seq (.optional text? "codr") |>.seq (.int32 "rssi")
    |>.seq (.optional float? "lsnr") |>.seq (.word "size") |>.seq (.octets "data")

theorem StatusReport.follows_row : Follows fieldNames row ofMembers :=
  (Follows.moment Moment.readExpanded "time").map StatusReport.mk
    |>.seq (.optional float? "lati") |>.seq (.optional float? "long")
    |>.seq (.optional int32? "alti") |>.seq (.word "rxnb") |>.seq (.word "rxok")
    |>.seq (.word "rxfw") |>.seq (.float "ackr") |>.seq (.word "dwnb") |>.seq (.word "txnb")

theorem DownlinkCommand.follows_row : Follows fieldNames row ofMembers :=
  (Follows.optional bool? "imme").map DownlinkCommand.mk
    |>.seq (.optional word? "tmst") |>.seq (.moment Moment.readCompact "time") |>.seq (.float "freq")
    |>.seq (.word "rfch") |>.seq (.word "powe") |>.seq .dataRate |>.seq (.optional text? "codr")
    |>.seq (.optional word? "fdev") |>.seq (.optional bool? "ipol") |>.seq (.optional word? "prea")
    |>.seq (.word "size") |>.seq (.octets "data") |>.seq (.optional bool? "ncrc")

theorem UplinkFrame.ofJson_row (items : List Json) : ofJson (.array items) = row.whole items :=
  (follows_row.whole (by decide) items).symm

theorem StatusReport.ofJson_row (items : List Json) : ofJson (.array items) = row.whole items :=
  (follows_row.whole (by decide) items).symm

theorem DownlinkCommand.ofJson_row (items : List Json) : ofJson (.array items) = row.whole items :=
  (follows_row.whole (by decide) items).symm

end Records

namespace Json

/-- A row that ends with the last field or before, and the object that names its values. -/
def RowOf (fields : List String) (v v' : Json) : Prop :=
  ∃ row, row.length ≤ fields.length ∧ v = .array row ∧ v' = .object (fields.zip row)

variable {fields : List String} {v v' : Json}

theorem RowOf.sameRecord (pair : RowOf fields v v') : SameRecord fields v v' := by
  obtain ⟨row, fits, rfl, rfl⟩ := pair
  exact ⟨_, _, if_pos fits, rfl, fun _ _ => rfl⟩

theorem RowOf.depth_eq (pair : RowOf fields v v') : v.depth = v'.depth := by
  obtain ⟨row, fits, rfl, rfl⟩ := pair
  rw [depth, depth, depthMembers_eq, List.map_snd_zip fits]

theorem not_formed_of_long {table : List FieldForm} {row : List Json}
    (long : table.length < row.length) : ¬Formed table (.array row) := by
  rintro ⟨m, same | ⟨items, same, fits, -⟩, -⟩
  · cases same
  · cases same
    omega

end Json

namespace Body

def foreign : Direction → List String
  | .uplink => ["txpk"]
  | .downlink => ["rxpk", "stat"]

/-- A record of the body is a row with more values than it has fields. -/
inductive Overfull : Direction → Members → Prop
  | frame {m : Members} {entries row : List Json} (listed : m.get? "rxpk" = some (.array entries))
    (member : .array row ∈ entries) (long : UplinkFrame.fieldNames.length < row.length) :
    Overfull .uplink m
  | status {m : Members} {row : List Json} (given : m.get? "stat" = some (.array row))
    (long : StatusReport.fieldNames.length < row.length) : Overfull .uplink m
  | command {m : Members} {row : List Json} (given : m.get? "txpk" = some (.array row))
    (long : DownlinkCommand.fieldNames.length < row.length) : Overfull .downlink m

variable {direction : Direction} {octets : List UInt8} {m m' : Members}

theorem InRecord.depth_eq {related : List String → Json → Json → Prop}
    (level : ∀ fields v v', related fields v v' → v.depth = v'.depth)
    (pair : InRecord related m m') : (Json.object m).depth = (Json.object m').depth := by
  have exchanged {v v' : Json} (same : v.depth = v'.depth) (key : String)
      (before after : Members) :
      (Json.object (before ++ (key, v) :: after)).depth =
        (Json.object (before ++ (key, v') :: after)).depth := by
    simp only [depth, depthMembers_eq, List.map_append, List.map_cons, depthItems_append, depthItems,
      same]
  cases pair with
  | frame before after front back pair =>
    refine exchanged ?_ "rxpk" before after
    simp only [depth, depthItems_append, depthItems, level _ _ _ pair]
  | status before after pair => exact exchanged (level _ _ _ pair) "stat" before after
  | command before after pair => exact exchanged (level _ _ _ pair) "txpk" before after

theorem decode_text (text : IsText octets (.object m)) :
    decode direction octets =
      if (Json.object m).depth ≤ maxDepth then ofMembers direction m
      else .error (.body .form) := by
  by_cases fits : (Json.object m).depth ≤ maxDepth
  · rw [decode, parse?_text text, if_pos fits, if_pos fits]
  · rw [decode, parse?_text text, if_neg fits, if_neg fits]

theorem ofMembers_overfull (own : ∀ key ∈ foreign direction, ∀ v, (key, v) ∉ m)
    (overfull : Overfull direction m) : ofMembers direction m = .error (.body .form) := by
  cases overfull with
  | frame listed member long =>
    rw [ofMembers_uplink (own "txpk" List.mem_cons_self)]
    refine result_eq_error.mpr (.inl ⟨fun form => ?_, rfl⟩)
    obtain ⟨report, reported⟩ := exists_report m
    exact not_formed_of_long long (((reads_uplink (.inl listed) reported).hasForm.mp form).1 _ member)
  | @status _ row given long =>
    rw [ofMembers_uplink (own "txpk" List.mem_cons_self)]
    refine result_eq_error.mpr (.inl ⟨fun form => ?_, rfl⟩)
    obtain ⟨entries, listed⟩ := exists_entries_of_hasForm (hasForm_map.mp (hasForm_seq.mp form).1)
    have reported : Report m (some (.array row)) := .inr ⟨.array row, nofun, given, rfl⟩
    exact not_formed_of_long long (((reads_uplink listed reported).hasForm.mp form).2 _ rfl)
  | command given long =>
    rw [ofMembers_downlink (own "rxpk" List.mem_cons_self)
      (own "stat" (List.mem_cons_of_mem _ List.mem_cons_self))]
    refine result_eq_error.mpr (.inl ⟨fun form => ?_, rfl⟩)
    obtain ⟨v, given', formed⟩ := hasForm_readCommand_iff.mp (hasForm_map.mp form)
    cases given.symm.trans given'
    exact not_formed_of_long long formed

/-- A record is read by position from a row and by name from an object, and both come to the same. A body is
decoded to the same parts, or to the same fault, whether one of its records is a row or the object that names
its values. If a row has more values than the record has fields, the body has not its form. -/
theorem decode_rows (direction : Direction) (octets : List UInt8) (m : Members)
    (text : IsText octets (.object m)) :
    (∀ (octets' : List UInt8) (m' : Members), IsText octets' (.object m') → InRecord RowOf m m' →
      decode direction octets = decode direction octets') ∧
    ((∀ key ∈ foreign direction, ∀ v, (key, v) ∉ m) → Overfull direction m →
      decode direction octets = .error (.body .form)) ∧
    ∀ row, UplinkFrame.ofJson (.array row) = UplinkFrame.row.whole row ∧
      StatusReport.ofJson (.array row) = StatusReport.row.whole row ∧
      DownlinkCommand.ofJson (.array row) = DownlinkCommand.row.whole row := by
  refine ⟨fun octets' m' text' pair => ?_, fun own overfull => ?_, fun row =>
    ⟨UplinkFrame.ofJson_row row, StatusReport.ofJson_row row, DownlinkCommand.ofJson_row row⟩⟩
  · have same := ofMembers_inRecord direction (pair.mono fun _ _ _ => RowOf.sameRecord)
    rw [decode_text text, decode_text text', pair.depth_eq fun _ _ _ => RowOf.depth_eq, same]
  · rw [decode_text text, ofMembers_overfull own overfull, ite_self]

def shortRow : List Json := [.null, ofWord 7, ofWord 2]

def rowBody : Members := [("rxpk", .array [.object [], .array shortRow])]

def namedBody : Members :=
  [("rxpk", .array [.object [], .object (UplinkFrame.fieldNames.zip shortRow)])]

def longBody : Members := [("txpk", .array (List.replicate 16 .null))]

theorem decode_rows_short :
    decode .uplink (octetsOfText (Json.object rowBody).compact) =
        decode .uplink (octetsOfText (Json.object namedBody).compact) ∧
      decode .downlink (octetsOfText (Json.object longBody).compact) = .error (.body .form) := by
  have row : IsDocument (octetsOfText (Json.object rowBody).compact) (.object rowBody) :=
    parse?_eq_some.mp (parse?_compact (by decide))
  have named : IsDocument (octetsOfText (Json.object namedBody).compact) (.object namedBody) :=
    parse?_eq_some.mp (parse?_compact (by decide))
  have long : IsDocument (octetsOfText (Json.object longBody).compact) (.object longBody) :=
    parse?_eq_some.mp (parse?_compact (by decide))
  have second : InRecord RowOf rowBody namedBody :=
    .frame [] [] [.object []] [] ⟨shortRow, by decide, rfl, rfl⟩
  have own : ∀ key ∈ foreign .downlink, ∀ v, (key, v) ∉ longBody := by
    simp only [foreign, List.forall_mem_cons]
    exact ⟨Members.has_eq_false.mp rfl, Members.has_eq_false.mp rfl, nofun⟩
  exact ⟨(decode_rows .uplink _ rowBody row.2).1 _ namedBody named.2 second,
    (decode_rows .downlink _ longBody long.2).2.1 own (.command rfl (by decide))⟩

end Body

end GatewayLink
