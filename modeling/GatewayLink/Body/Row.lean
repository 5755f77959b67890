import GatewayLink.Body.DownlinkCommand
import GatewayLink.Body.StatusReport
import GatewayLink.Body.UplinkFrame

/-! Records as rows: arrays with the values of the fields in order, without their names.
A row is read from left to right, one value for each field. The fields behind its end are missing; values left
over have no field, so the row has the wrong form. -/

namespace GatewayLink

open Json

def RowReader (α : Type) : Type := List Json → Reading α × List Json

namespace RowReader

variable {α β : Type}

def field (read : Option Json → Reading α) : RowReader α := fun row => (read row.head?, row.tail)

protected def map (f : α → β) (r : RowReader α) : RowReader β := fun row =>
  ((f <$> (r row).1 : Reading β), (r row).2)

protected def seq (r : RowReader (α → β)) (s : RowReader α) : RowReader β := fun row =>
  (((r row).1 <*> (s (r row).2).1 : Reading β), (s (r row).2).2)

instance : Applicative RowReader where
  pure a := fun row => ((pure a : Reading _), row)
  map := RowReader.map
  seq r s := RowReader.seq r (s ())

def whole (r : RowReader α) (row : List Json) : Reading α :=
  match r row with
  | (x, []) => x
  | (_, _ :: _) => .wrongForm

def optionalValue (form : Json → Option α) : Option Json → Option (Option α)
  | none | some .null => some none
  | some v => (form v).map some

def valueOr (default : α) (form : Json → Option α) : Option Json → Option α
  | none => some default
  | some v => form v

def optional (form : Json → Option α) : RowReader (Option α) :=
  field fun v => .plain (optionalValue form v)

def word : RowReader UInt32 := field fun v => .plain (valueOr 0 word? v)

def int32 : RowReader Int32 := field fun v => .plain (valueOr 0 int32? v)

def float : RowReader Binary64 := field fun v => .plain (valueOr Binary64.zero float? v)

def moment (read : String → Except Moment.Fault Moment) : RowReader (Option Moment) :=
  field fun v => .convert (optionalValue text? v) <|
    ifPresent fun value => (read value).mapError (Fault.timestamp value)

def crc : RowReader CrcStatus := field fun v => .convert (valueOr 0 int32? v) CrcStatus.ofCode

def octets : RowReader (List UInt8) :=
  field fun v => .convert (valueOr "" text? v) fun value =>
    (Base64.decode (octetsOfText value)).mapError fun cause => .body (.base64 cause)

def dataRate : RowReader DataRate := fun row =>
  (.convert
    ((optionalValue text? row.head?).bind fun modu =>
      (optionalValue some row.tail.head?).map fun datr => (modu, datr))
    fun (modu, datr) => DataRate.ofMembers modu datr, row.tail.tail)

end RowReader

def UplinkFrame.row : RowReader UplinkFrame :=
  UplinkFrame.mk
    <$> .moment Moment.readCompact
    <*> .word
    <*> .word
    <*> .word
    <*> .float
    <*> .crc
    <*> .dataRate
    <*> .optional text?
    <*> .int32
    <*> .optional float?
    <*> .word
    <*> .octets

def StatusReport.row : RowReader StatusReport :=
  StatusReport.mk
    <$> .moment Moment.readExpanded
    <*> .optional float?
    <*> .optional float?
    <*> .optional int32?
    <*> .word
    <*> .word
    <*> .word
    <*> .float
    <*> .word
    <*> .word

def DownlinkCommand.row : RowReader DownlinkCommand :=
  DownlinkCommand.mk
    <$> .optional bool?
    <*> .optional word?
    <*> .moment Moment.readCompact
    <*> .float
    <*> .word
    <*> .word
    <*> .dataRate
    <*> .optional text?
    <*> .optional word?
    <*> .optional bool?
    <*> .optional word?
    <*> .word
    <*> .octets
    <*> .optional bool?

end GatewayLink
