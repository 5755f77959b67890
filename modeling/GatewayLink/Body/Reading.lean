import GatewayLink.Fault
import GatewayLink.Json.Document
import GatewayLink.Moment.Layout

/-! Reading members of JSON objects.
A `Reading` has two stages. First all members must have the expected form; if one has not, nothing is
read. Then the members are converted in order, and the first conversion that fails is reported. Combining
readings keeps the stages apart, so a record is described field by field. -/

namespace GatewayLink

/-- `none` when a member has the wrong form, otherwise the result of the conversions. -/
def Reading (α : Type) : Type := Option (Except Fault α)

namespace Reading

variable {α β : Type}

def wrongForm : Reading α := (none : Option (Except Fault α))

def convert (form : Option α) (conversion : α → Except Fault β) : Reading β := form.map conversion

def plain (form : Option α) : Reading α := form.map Except.ok

protected def map (f : α → β) (x : Reading α) : Reading β := Option.map (Except.map f) x

def combine (f : Reading (α → β)) (x : Reading α) : Reading β :=
  Option.bind f fun f' => Option.map (fun x' => f'.bind fun g => x'.map g) x

instance : Applicative Reading where
  pure a := (some (.ok a) : Option (Except Fault _))
  map := Reading.map
  seq f x := combine f (x ())

def forEach (read : α → Reading β) : List α → Reading (List β)
  | [] => pure []
  | a :: rest => List.cons <$> read a <*> forEach read rest

/-- The outcome of both stages; a wrong form is a fault of the body. -/
def result (x : Reading α) : Except Fault α := Option.getD x (.error (.body .form))

end Reading

def ifPresent {α β : Type} (conversion : α → Except Fault β) : Option α → Except Fault (Option β)
  | none => .ok none
  | some a => (conversion a).map some

namespace Json

def bool? : Json → Option Bool
  | .bool b => some b
  | _ => none

def text? : Json → Option String
  | .text s => some s
  | _ => none

def array? : Json → Option (List Json)
  | .array items => some items
  | _ => none

/-- An integer from `0` to `2 ^ 32 - 1`; no other number is one, not even `1.0`. -/
def word? : Json → Option UInt32
  | .number (.integer i) => if 0 ≤ i ∧ i < 0x100000000 then some (UInt32.ofNat i.toNat) else none
  | _ => none

def int32? : Json → Option Int32
  | .number (.integer i) =>
    if -0x80000000 ≤ i ∧ i < 0x80000000 then some (Int32.ofInt i) else none
  | _ => none

def float? : Json → Option Binary64
  | .number n => some n.toBinary64
  | _ => none

/-- The members of a record. A record is an object or an array with the values of its fields in order,
of which the last ones may be missing. -/
def recordMembers? (fields : List String) : Json → Option Members
  | .object members => some members
  | .array items => if items.length ≤ fields.length then some (fields.zip items) else none
  | _ => none

namespace Members

variable {α : Type}

def optional (form : Json → Option α) (key : String) (members : Members) : Option (Option α) :=
  match members.get? key with
  | none | some .null => some none
  | some v => (form v).map some

/-- A member with a default; null is not one of its values. -/
def withDefault (form : Json → Option α) (default : α) (key : String) (members : Members) :
    Option α :=
  match members.get? key with
  | none => some default
  | some v => form v

def word (key : String) (members : Members) : Option UInt32 := members.withDefault word? 0 key

def int32 (key : String) (members : Members) : Option Int32 := members.withDefault int32? 0 key

def float (key : String) (members : Members) : Option Binary64 :=
  members.withDefault float? Binary64.zero key

def text (key : String) (members : Members) : Option String := members.withDefault text? "" key

def moment (read : String → Except Moment.Fault Moment) (key : String) (members : Members) :
    Reading (Option Moment) :=
  Reading.convert (members.optional text? key) <|
    ifPresent fun value => (read value).mapError (Fault.timestamp value)

def octets (key : String) (members : Members) : Reading (List UInt8) :=
  Reading.convert (members.text key) fun value =>
    (Base64.decode (octetsOfText value)).mapError fun cause => .body (.base64 cause)

end Members

def ofFields (fields : List (String × Option Json)) : Json :=
  .object (fields.filterMap fun (key, value) => value.map fun v => (key, v))

def ofWord (w : UInt32) : Json := .number (.integer w.toNat)

@[simp] theorem word?_ofWord (w : UInt32) : (ofWord w).word? = some w := by
  have bound := w.toNat_lt
  rw [ofWord, word?, if_pos ⟨by omega, by omega⟩]
  simp

def ofInt32 (i : Int32) : Json := .number (.integer i.toInt)

def ofFloat (x : Binary64) : Json := .number (.float x)

def ofOctets (octets : List UInt8) : Json := .text (String.ofList (Base64.encode octets))

end Json

end GatewayLink
