import Mathlib.Data.List.Forall2
import GatewayLink.Body.DataRate
import GatewayLink.Proofs.Base64.Padding
import GatewayLink.Proofs.Json.Document
import GatewayLink.Proofs.Json.Float
import GatewayLink.Proofs.Moment.Layout

/-! Reading back members.
The members of a written record are found again under their keys, with their numbers read again; from
there each kind of member is read back by itself. Only floats and moments can come back different. -/

namespace GatewayLink

namespace Reading

variable {α β : Type}

def Gives (x : Reading α) (a : α) : Prop := (show Option (Except Fault α) from x) = some (.ok a)

theorem result_eq_ok {x : Reading α} {a : α} : x.result = .ok a ↔ x.Gives a := by
  cases x with
  | none => simp [result, Gives]
  | some y => simp [result, Gives]

theorem gives_pure {a b : α} : (pure a : Reading α).Gives b ↔ a = b := by
  simp [Gives, pure]

theorem gives_plain {form : Option α} {a : α} : (plain form).Gives a ↔ form = some a := by
  cases form <;> simp [Gives, plain]

theorem gives_convert {form : Option α} {conversion : α → Except Fault β} {b : β} :
    (convert form conversion).Gives b ↔ ∃ a, form = some a ∧ conversion a = .ok b := by
  cases form <;> simp [Gives, convert]

theorem gives_map {f : α → β} {x : Reading α} {b : β} :
    (f <$> x).Gives b ↔ ∃ a, x.Gives a ∧ f a = b := by
  match x with
  | none => simp [Gives, Functor.map, Reading.map]
  | some (.error fault) => simp [Gives, Functor.map, Reading.map, Except.map]
  | some (.ok a) => simp [Gives, Functor.map, Reading.map, Except.map]

theorem gives_seq {f : Reading (α → β)} {x : Reading α} {b : β} :
    (f <*> x).Gives b ↔ ∃ g a, f.Gives g ∧ x.Gives a ∧ g a = b := by
  match f, x with
  | none, _ => simp [Gives, Seq.seq, combine]
  | some (.error fault), none => simp [Gives, Seq.seq, combine]
  | some (.error fault), some y => simp [Gives, Seq.seq, combine, Except.bind]
  | some (.ok g), none => simp [Gives, Seq.seq, combine]
  | some (.ok g), some (.error fault) => simp [Gives, Seq.seq, combine, Except.bind, Except.map]
  | some (.ok g), some (.ok a) => simp [Gives, Seq.seq, combine, Except.bind, Except.map]

theorem Gives.map {x : Reading α} {a : α} (f : α → β) (given : x.Gives a) : (f <$> x).Gives (f a) :=
  gives_map.mpr ⟨a, given, rfl⟩

theorem Gives.seq {f : Reading (α → β)} {x : Reading α} {g : α → β} {a : α} (first : f.Gives g)
    (given : x.Gives a) : (f <*> x).Gives (g a) :=
  gives_seq.mpr ⟨g, a, first, given, rfl⟩

end Reading

namespace Json

open Reading

@[simp] theorem reread?_text (s : String) : (Json.text s).reread? = some (.text s) := rfl

@[simp] theorem reread?_bool (b : Bool) : (Json.bool b).reread? = some (.bool b) := rfl

@[simp] theorem reread?_ofOctets (octets : List UInt8) :
    (ofOctets octets).reread? = some (ofOctets octets) := rfl

theorem reread?_integer {i : Int} (low : -0x8000000000000000 ≤ i) (high : i < 0x10000000000000000) :
    (Json.number (.integer i)).reread? = some (.number (.integer i)) := by
  rw [Json.reread?, Number.reread?, Number.text, ofWord?_integerText low high]
  rfl

@[simp] theorem reread?_ofWord (w : UInt32) : (ofWord w).reread? = some (ofWord w) := by
  have bound := w.toNat_lt
  exact reread?_integer (by omega) (by omega)

@[simp] theorem reread?_ofInt32 (i : Int32) : (ofInt32 i).reread? = some (ofInt32 i) := by
  have low := i.le_toInt
  have high := i.toInt_lt
  exact reread?_integer (by omega) (by omega)

theorem int32?_ofInt32 (i : Int32) : (ofInt32 i).int32? = some i := by
  have low := i.le_toInt
  have high := i.toInt_lt
  rw [ofInt32, int32?, if_pos ⟨by omega, by omega⟩, Int32.ofInt_toInt]

theorem float?_reread_ofFloat (x : Binary64) :
    ((ofFloat x).reread?.bind float?) = some x ↔ x.Survives := by
  rw [ofFloat, Json.reread?, Number.reread?, Number.text]
  cases finite : x.isFinite with
  | true =>
    have shown : ((Lexeme.ofWord? (Number.floatText x)).bind Lexeme.scalar?).bind float? =
        ((Literal.ofWord? (Number.floatText x)).bind Literal.number?).map Number.toBinary64 := by
      rw [(numericText_floatText finite).ofWord?]
      cases Literal.ofWord? (Number.floatText x) with
      | none => rfl
      | some l => cases read : l.number? <;> simp [read, Lexeme.scalar?, float?]
    rw [shown, Binary64.Survives, finite]
    simp
  | false =>
    have null : Lexeme.ofWord? (Number.floatText x) = some .null := by
      have text : Number.floatText x = "null".toList := by simp [Number.floatText, finite]
      rw [text]
      rfl
    rw [null, Binary64.Survives, finite]
    simp [Lexeme.scalar?, float?]

@[simp] theorem isSome_reread_ofFloat (x : Binary64) : (ofFloat x).reread?.isSome = true := by
  rw [ofFloat, Json.reread?, Number.reread?, Number.text]
  cases finite : x.isFinite with
  | true =>
    obtain ⟨n, read⟩ := Option.isSome_iff_exists.mp (isSome_number?_floatText finite)
    obtain ⟨l, literal, number⟩ := Option.bind_eq_some_iff.mp read
    rw [(numericText_floatText finite).ofWord?, literal, Option.bind_some, number]
    rfl
  | false =>
    have text : Number.floatText x = "null".toList := by simp [Number.floatText, finite]
    rw [text]
    rfl

@[simp] def fieldValue? (key : String) : List (String × Option Json) → Option Json
  | [] => none
  | (k, v) :: rest => (fieldValue? key rest).or (if k = key then v else none)

def presentFields (fields : List (String × Option Json)) : Members :=
  fields.filterMap fun (key, value) => value.map fun v => (key, v)

theorem ofFields_eq (fields : List (String × Option Json)) :
    ofFields fields = .object (presentFields fields) := rfl

theorem get?_presentFields (key : String) (fields : List (String × Option Json)) :
    (presentFields fields).get? key = fieldValue? key fields := by
  induction fields with
  | nil => rfl
  | cons field rest ih =>
    obtain ⟨k, v⟩ := field
    cases v with
    | none =>
      have skipped : presentFields ((k, none) :: rest) = presentFields rest := rfl
      rw [skipped, ih, fieldValue?, ite_self, Option.or_none]
    | some v =>
      have kept : presentFields ((k, some v) :: rest) = (k, v) :: presentFields rest := rfl
      rw [kept, Members.get?, ih, fieldValue?]
      cases fieldValue? key rest <;> simp

theorem get?_reread {members again : Members} (read : rereadMembers? members = some again)
    (key : String) :
    again.get? key = (members.get? key).bind Json.reread? ∧
      ∀ v ∈ members.get? key, v.reread?.isSome = true := by
  induction members generalizing again with
  | nil =>
    cases read
    exact ⟨rfl, nofun⟩
  | cons member rest ih =>
    obtain ⟨k, v⟩ := member
    rw [rereadMembers?, Option.bind_eq_some_iff] at read
    obtain ⟨v', read_v, later⟩ := read
    obtain ⟨rest', read_rest, rfl⟩ := Option.map_eq_some_iff.mp later
    obtain ⟨found, present⟩ := ih read_rest
    rw [Members.get?, Members.get?]
    cases there : Members.get? key rest with
    | some w =>
      rw [there] at found present
      obtain ⟨w', read_w⟩ := Option.isSome_iff_exists.mp (present w rfl)
      rw [found]
      simp [read_w]
    | none =>
      rw [there] at found
      rw [found]
      by_cases same : k = key <;> simp [same, read_v]

theorem rereadMembers?_presentFields {fields : List (String × Option Json)}
    (present : ∀ field ∈ fields, ∀ v ∈ field.2, v.reread?.isSome = true) :
    ∃ again, rereadMembers? (presentFields fields) = some again := by
  induction fields with
  | nil => exact ⟨[], rfl⟩
  | cons field rest ih =>
    obtain ⟨again, read⟩ := ih fun field member => present field (List.mem_cons_of_mem _ member)
    obtain ⟨k, v⟩ := field
    cases v with
    | none => exact ⟨again, read⟩
    | some v =>
      obtain ⟨v', read_v⟩ := Option.isSome_iff_exists.mp (present (k, some v) List.mem_cons_self v rfl)
      refine ⟨(k, v') :: again, ?_⟩
      have kept : presentFields ((k, some v) :: rest) = (k, v) :: presentFields rest := rfl
      rw [kept, rereadMembers?, read_v, Option.bind_some, read]
      rfl

@[simp] theorem depth_ofWord (w : UInt32) : (ofWord w).depth = 0 := rfl

@[simp] theorem depth_ofInt32 (i : Int32) : (ofInt32 i).depth = 0 := rfl

@[simp] theorem depth_ofFloat (x : Binary64) : (ofFloat x).depth = 0 := rfl

@[simp] theorem depth_ofOctets (octets : List UInt8) : (ofOctets octets).depth = 0 := rfl

theorem depth_ofFields {n : Nat} {fields : List (String × Option Json)}
    (shallow : ∀ field ∈ fields, ∀ v ∈ field.2, v.depth ≤ n) : (ofFields fields).depth ≤ n + 1 := by
  have members : depthMembers (presentFields fields) ≤ n := by
    induction fields with
    | nil => exact Nat.zero_le n
    | cons field rest ih =>
      have later := ih fun field member => shallow field (List.mem_cons_of_mem _ member)
      obtain ⟨k, v⟩ := field
      cases v with
      | none => exact later
      | some v =>
        have first := shallow (k, some v) List.mem_cons_self v rfl
        exact Nat.max_le.mpr ⟨first, later⟩
  rw [ofFields_eq, depth]
  omega

namespace Members

variable {m : Members} {key : String}

theorem word_of_get? {w : UInt32} (found : m.get? key = some (ofWord w)) : m.word key = some w := by
  simp [word, withDefault, found]

theorem int32_of_get? {i : Int32} (found : m.get? key = some (ofInt32 i)) :
    m.int32 key = some i := by
  simp [int32, withDefault, found, int32?_ofInt32]

theorem optional_of_get? {α : Type} {form : Json → Option α} {write : α → Json} {o : Option α}
    (found : m.get? key = o.map write) (null : form .null = none)
    (reads : ∀ a, form (write a) = some a) : m.optional form key = some o := by
  cases o with
  | none => simp [optional, found]
  | some a =>
    obtain ⟨v, shown⟩ : ∃ v, write a = v := ⟨_, rfl⟩
    have written := reads a
    rw [Option.map_some, shown] at found
    rw [shown] at written
    cases v with
    | null => cases null.symm.trans written
    | _ => simp [optional, found, written]

theorem float_of_get? {x : Binary64} (found : m.get? key = (ofFloat x).reread?)
    (present : (ofFloat x).reread?.isSome = true) : m.float key = some x ↔ x.Survives := by
  obtain ⟨v, read⟩ := Option.isSome_iff_exists.mp present
  rw [← float?_reread_ofFloat, read, Option.bind_some]
  simp [float, withDefault, found, read]

theorem optional_float_of_get? {o : Option Binary64}
    (found : m.get? key = (o.map ofFloat).bind Json.reread?)
    (present : ∀ v ∈ o.map ofFloat, v.reread?.isSome = true) :
    m.optional float? key = some o ↔ ∀ x ∈ o, x.Survives := by
  cases o with
  | none => simp [optional, found]
  | some x =>
    obtain ⟨v, read⟩ := Option.isSome_iff_exists.mp (present (ofFloat x) rfl)
    rw [Option.map_some, Option.bind_some, read] at found
    have decides := float?_reread_ofFloat x
    rw [read, Option.bind_some] at decides
    have optional : m.optional float? key = some (some x) ↔ float? v = some x := by
      cases v with
      | null => simp [Members.optional, found, float?]
      | _ => simp [Members.optional, found]
    simpa [optional] using decides

theorem moment_of_get? {o : Option Moment} {write : Moment → String}
    {read : String → Except Moment.Fault Moment}
    (found : m.get? key = o.map fun t => .text (write t)) :
    (m.moment read key).Gives o ↔ ∀ t ∈ o, read (write t) = .ok t := by
  have texts : m.optional text? key = some (o.map write) := by
    have written : m.get? key = (o.map write).map Json.text := by
      rw [found, Option.map_map]
      rfl
    exact optional_of_get? written rfl fun _ => rfl
  rw [moment, gives_convert, texts]
  cases o with
  | none => simp [ifPresent]
  | some t => cases back : read (write t) <;> simp [ifPresent, back, Except.mapError, Except.map]

theorem octets_of_get? {octets : List UInt8} (found : m.get? key = some (ofOctets octets)) :
    (m.octets key).Gives octets := by
  have text : m.text key = some (String.ofList (Base64.encode octets)) := by
    simp [Members.text, withDefault, found, ofOctets, text?]
  have ascii : octetsOfText (String.ofList (Base64.encode octets)) =
      (Base64.encode octets).map Base64.octetOf := octetsOfText_ascii (Base64.encode_isAscii octets)
  rw [Members.octets, gives_convert]
  refine ⟨_, text, ?_⟩
  rw [ascii, Base64.decode_encode]
  rfl

end Members

end Json

open Json Reading

@[simp] theorem DataRate.depth_toJson (rate : DataRate) : rate.toJson.depth = 0 := by
  cases rate <;> rfl

@[simp] theorem DataRate.reread?_toJson (rate : DataRate) :
    rate.toJson.reread? = some rate.toJson := by
  cases rate with
  | lora name => rfl
  | fsk bitRate => exact reread?_ofWord bitRate

theorem DataRate.read_of_get? {m : Members} {rate : DataRate}
    (modu : m.get? "modu" = some (.text rate.modulation.text))
    (datr : m.get? "datr" = some rate.toJson) : (DataRate.read m).Gives rate := by
  have name : m.optional text? "modu" = some (some rate.modulation.text) := by
    simp [Members.optional, modu, text?]
  have value : m.optional some "datr" = some (some rate.toJson) := by
    cases rate <;> simp [Members.optional, datr, DataRate.toJson, ofWord]
  rw [DataRate.read, gives_convert]
  refine ⟨(some rate.modulation.text, some rate.toJson), ?_, ofMembers_toJson rate⟩
  rw [name, Option.bind_some, value]
  rfl

def ReadsBack {α : Type} (v : Json) (read : Json → Reading α) (a : α) : Prop :=
  ∃ v', v.reread? = some v' ∧ (read v').Gives a

structure Rewritten (fields : List (String × Option Json)) (m : Members) : Prop where
  get? : ∀ key, m.get? key = (fieldValue? key fields).bind Json.reread?
  present : ∀ key, ∀ v ∈ fieldValue? key fields, v.reread?.isSome = true

namespace Rewritten

variable {fields : List (String × Option Json)} {m : Members} {key : String}

theorem kept {α : Type} {o : Option α} {write : α → Json} (known : Rewritten fields m)
    (value : fieldValue? key fields = o.map write)
    (fixed : ∀ a, (write a).reread? = some (write a)) : m.get? key = o.map write := by
  rw [known.get?, value]
  cases o with
  | none => rfl
  | some a => exact fixed a

theorem given {v : Json} (known : Rewritten fields m) (value : fieldValue? key fields = some v)
    (fixed : v.reread? = some v) : m.get? key = some v := by
  rw [known.get?, value]
  exact fixed

theorem absent (known : Rewritten fields m) (value : fieldValue? key fields = none) :
    m.get? key = none := by
  rw [known.get?, value]
  rfl

theorem has (known : Rewritten fields m) (key : String) :
    m.has key = (fieldValue? key fields).isSome := by
  rw [Members.has, known.get?]
  cases value : fieldValue? key fields with
  | none => rfl
  | some v => exact known.present key v value

theorem has_eq_false (known : Rewritten fields m) (value : fieldValue? key fields = none) :
    m.has key = false := by
  rw [known.has, value]
  rfl

theorem word {w : UInt32} (known : Rewritten fields m)
    (value : fieldValue? key fields = some (ofWord w)) : m.word key = some w :=
  Members.word_of_get? (known.given value (reread?_ofWord w))

theorem int32 {i : Int32} (known : Rewritten fields m)
    (value : fieldValue? key fields = some (ofInt32 i)) : m.int32 key = some i :=
  Members.int32_of_get? (known.given value (reread?_ofInt32 i))

theorem optional_text {o : Option String} (known : Rewritten fields m)
    (value : fieldValue? key fields = o.map .text) : m.optional text? key = some o :=
  Members.optional_of_get? (known.kept value fun _ => rfl) rfl fun _ => rfl

theorem optional_bool {o : Option Bool} (known : Rewritten fields m)
    (value : fieldValue? key fields = o.map .bool) : m.optional bool? key = some o :=
  Members.optional_of_get? (known.kept value fun _ => rfl) rfl fun _ => rfl

theorem optional_word {o : Option UInt32} (known : Rewritten fields m)
    (value : fieldValue? key fields = o.map ofWord) : m.optional word? key = some o :=
  Members.optional_of_get? (known.kept value reread?_ofWord) rfl word?_ofWord

theorem optional_int32 {o : Option Int32} (known : Rewritten fields m)
    (value : fieldValue? key fields = o.map ofInt32) : m.optional int32? key = some o :=
  Members.optional_of_get? (known.kept value reread?_ofInt32) rfl int32?_ofInt32

theorem float {x : Binary64} (known : Rewritten fields m)
    (value : fieldValue? key fields = some (ofFloat x)) :
    m.float key = some x ↔ x.Survives := by
  refine Members.float_of_get? ?_ (known.present key _ value)
  rw [known.get?, value]
  rfl

theorem optional_float {o : Option Binary64} (known : Rewritten fields m)
    (value : fieldValue? key fields = o.map ofFloat) :
    m.optional float? key = some o ↔ ∀ x ∈ o, x.Survives := by
  refine Members.optional_float_of_get? ?_ fun v member => known.present key v ?_
  · rw [known.get?, value]
  · rw [value]
    exact member

theorem moment {o : Option Moment} {write : Moment → String}
    {read : String → Except Moment.Fault Moment} (known : Rewritten fields m)
    (value : fieldValue? key fields = o.map fun t => .text (write t)) :
    (m.moment read key).Gives o ↔ ∀ t ∈ o, read (write t) = .ok t :=
  Members.moment_of_get? (known.kept value fun _ => rfl)

theorem octets {octets : List UInt8} (known : Rewritten fields m)
    (value : fieldValue? key fields = some (ofOctets octets)) : (m.octets key).Gives octets :=
  Members.octets_of_get? (known.given value rfl)

theorem dataRate {rate : DataRate} (known : Rewritten fields m)
    (modu : fieldValue? "modu" fields = some (.text rate.modulation.text))
    (datr : fieldValue? "datr" fields = some rate.toJson) : (DataRate.read m).Gives rate :=
  DataRate.read_of_get? (known.given modu rfl) (known.given datr rate.reread?_toJson)

end Rewritten

theorem rewritten_of_reread {fields : List (String × Option Json)} {again : Members}
    (reread : rereadMembers? (presentFields fields) = some again) : Rewritten fields again := by
  refine ⟨fun key => ?_, fun key => ?_⟩
  · rw [(get?_reread reread key).1, get?_presentFields]
  · have present := (get?_reread reread key).2
    rwa [get?_presentFields] at present

theorem isSome_reread_ofFields {fields : List (String × Option Json)}
    (present : ∀ field ∈ fields, ∀ v ∈ field.2, v.reread?.isSome = true) :
    (ofFields fields).reread?.isSome = true := by
  obtain ⟨m, reread⟩ := rereadMembers?_presentFields present
  rw [ofFields_eq, Json.reread?, reread]
  rfl

theorem exists_rewritten {fields : List (String × Option Json)}
    (readable : (ofFields fields).reread?.isSome = true) :
    ∃ m, rereadMembers? (presentFields fields) = some m ∧ Rewritten fields m := by
  rw [ofFields_eq, Json.reread?, Option.isSome_map] at readable
  obtain ⟨m, reread⟩ := Option.isSome_iff_exists.mp readable
  exact ⟨m, reread, rewritten_of_reread reread⟩

theorem exists_reread_iff {fields : List (String × Option Json)} {succeeds : Members → Prop}
    {condition : Prop} (readable : (ofFields fields).reread?.isSome = true)
    (reads : ∀ m, Rewritten fields m → (succeeds m ↔ condition)) :
    (∃ m, rereadMembers? (presentFields fields) = some m ∧ succeeds m) ↔ condition := by
  obtain ⟨m, reread, known⟩ := exists_rewritten readable
  rw [← reads m known]
  constructor
  · rintro ⟨m', reread', success⟩
    cases reread.symm.trans reread'
    exact success
  · exact fun success => ⟨m, reread, success⟩

theorem readsBack_iff {α : Type} {v v' : Json} {read : Json → Reading α} {a : α}
    (reread : v.reread? = some v') : ReadsBack v read a ↔ (read v').Gives a := by
  simp [ReadsBack, reread]

theorem readsBack_ofFields {α : Type} {fields : List (String × Option Json)}
    {read : Json → Reading α} {a : α} {condition : Prop}
    (readable : (ofFields fields).reread?.isSome = true)
    (reads : ∀ m, Rewritten fields m → ((read (.object m)).Gives a ↔ condition)) :
    ReadsBack (ofFields fields) read a ↔ condition := by
  rw [← exists_reread_iff readable reads, ofFields_eq, ReadsBack, Json.reread?]
  simp

theorem rereadItems?_eq_some {items again : List Json} :
    rereadItems? items = some again ↔ List.Forall₂ (fun v w => v.reread? = some w) items again := by
  induction items generalizing again with
  | nil => rw [rereadItems?, Option.some.injEq, List.forall₂_nil_left_iff, eq_comm]
  | cons v rest ih =>
    simp only [rereadItems?, Option.bind_eq_some_iff, Option.map_eq_some_iff,
      List.forall₂_cons_left_iff, ih]
    constructor
    · rintro ⟨w, first, others, later, rfl⟩
      exact ⟨w, others, first, later, rfl⟩
    · rintro ⟨w, others, first, later, rfl⟩
      exact ⟨w, first, others, later, rfl⟩

theorem gives_forEach {α : Type} {write : α → Json} {read : Json → Reading α} {as : List α}
    {items : List Json} (reread : rereadItems? (as.map write) = some items) :
    (Reading.forEach read items).Gives as ↔ ∀ a ∈ as, ReadsBack (write a) read a := by
  have again := List.forall₂_map_left_iff.mp (rereadItems?_eq_some.mp reread)
  clear reread
  induction again with
  | nil => exact ⟨fun _ => nofun, fun _ => gives_pure.mpr rfl⟩
  | @cons a v as items first _ ih =>
    have rest : (Reading.forEach read items).Gives as ↔ ∀ a ∈ as, ReadsBack (write a) read a := ih
    rw [List.forall_mem_cons, readsBack_iff first, ← rest, Reading.forEach, gives_seq]
    constructor
    · rintro ⟨g, as', given, readRest, step⟩
      obtain ⟨a', readFirst, rfl⟩ := gives_map.mp given
      cases step
      exact ⟨readFirst, readRest⟩
    · rintro ⟨readFirst, readRest⟩
      exact ⟨List.cons a, as, readFirst.map List.cons, readRest, rfl⟩

theorem isSome_rereadItems {items : List Json} (present : ∀ v ∈ items, v.reread?.isSome = true) :
    (rereadItems? items).isSome = true := by
  induction items with
  | nil => rfl
  | cons v rest ih =>
    obtain ⟨first, others⟩ := List.forall_mem_cons.mp present
    obtain ⟨v', reread⟩ := Option.isSome_iff_exists.mp first
    rw [rereadItems?, reread, Option.bind_some, Option.isSome_map]
    exact ih others

end GatewayLink
