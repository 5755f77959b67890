import GatewayLink.Body.Reading

/-! Data rates. Each belongs to a modulation: LoRa rates are names such as `SF7BW125`, FSK rates are bits
per second. In a body the modulation stands in `modu` and the rate in `datr`. -/

namespace GatewayLink

inductive DataRate where
  | lora (name : String)
  | fsk (bitRate : UInt32)
  deriving DecidableEq

namespace DataRate

open Text

def modulation : DataRate → Modulation
  | lora _ => .lora
  | fsk _ => .fsk

def modulationOf (name : Option String) : Except Fault Modulation :=
  match name with
  | some "LORA" => .ok .lora
  | some "FSK" => .ok .fsk
  | other => .error (.modulation (other.getD ""))

def bitRateOfText? (s : String) : Option UInt32 :=
  let ds := match s.toList with
    | '+' :: rest => rest
    | cs => cs
  if ds ≠ [] ∧ ds.all isDigit ∧ decimalValue ds < 0x100000000 then
    some (UInt32.ofNat (decimalValue ds))
  else none

/-- A rate in the form its modulation asks for. An FSK rate may also be given as text. -/
def ofJson (modulation : Modulation) (value : Json) : Except Fault DataRate :=
  match modulation, value with
  | .lora, .text name => .ok (.lora name)
  | .fsk, .number n =>
    match (Json.number n).word? with
    | some rate => .ok (.fsk rate)
    | none => .error (.body (.bitRateNumber n))
  | .fsk, .text s =>
    match bitRateOfText? s with
    | some rate => .ok (.fsk rate)
    | none => .error (.body (.bitRateText s))
  | modulation, other => .error (.body (.dataRateForm other.canonical.compact modulation))

def ofMembers (modu : Option String) (datr : Option Json) : Except Fault DataRate :=
  match modulationOf modu, datr with
  | .error fault, _ => .error fault
  | .ok _, none => .error (.body .noDataRate)
  | .ok modulation, some value => ofJson modulation value

def toJson : DataRate → Json
  | lora name => .text name
  | fsk bitRate => .ofWord bitRate

def read (members : Json.Members) : Reading DataRate :=
  Reading.convert
    ((members.optional Json.text? "modu").bind fun modu =>
      (members.optional some "datr").map fun datr => (modu, datr))
    fun (modu, datr) => ofMembers modu datr

def fields (rate : DataRate) : List (String × Option Json) :=
  [("modu", some (.text rate.modulation.text)), ("datr", some rate.toJson)]

@[simp] theorem ofMembers_toJson (rate : DataRate) :
    ofMembers (some rate.modulation.text) (some rate.toJson) = .ok rate := by
  cases rate with
  | lora name => rfl
  | fsk bitRate =>
    show ofJson .fsk (.ofWord bitRate) = .ok (.fsk bitRate)
    have word := Json.word?_ofWord bitRate
    rw [Json.ofWord] at word
    rw [Json.ofWord, ofJson, word]

end DataRate

end GatewayLink
