import GatewayLink.Proofs.Body.Conversion

/-! What a body is read from.
Only look-ups count: a record is read from the last member of each of its fields, and a body from the last
`rxpk`, `stat` and `txpk`. So a body stays what it is if one of its records is exchanged for another one with
the same look-ups, wherever that record stands. -/

namespace GatewayLink

open Json Reading

namespace Json

def Members.SameFields (keys : List String) (m m' : Members) : Prop :=
  ∀ key ∈ keys, m.get? key = m'.get? key

def SameRecord (fields : List String) (v v' : Json) : Prop :=
  ∃ m m', v.recordMembers? fields = some m ∧ v'.recordMembers? fields = some m' ∧
    m.SameFields fields m'

namespace Members

theorem mem_of_get? {m : Members} {key : String} {v : Json} (found : m.get? key = some v) :
    (key, v) ∈ m := by
  induction m with
  | nil => cases found
  | cons first rest ih =>
    obtain ⟨k, w⟩ := first
    rw [get?] at found
    split at found
    · next later there =>
      cases found
      exact List.mem_cons_of_mem _ (ih there)
    · split at found
      · next same =>
        cases found
        rw [same]
        exact List.mem_cons_self
      · cases found

theorem get?_exchanged (before after : Members) (key other : String) (v v' : Json) :
    get? other (before ++ (key, v) :: after) = get? other (before ++ (key, v') :: after) ∨
      other = key ∧ get? other (before ++ (key, v) :: after) = some v ∧
        get? other (before ++ (key, v') :: after) = some v' := by
  simp only [get?_append, get?]
  cases get? other after with
  | some later => exact .inl rfl
  | none =>
    by_cases same : key = other
    · exact .inr ⟨same.symm, by simp [same]⟩
    · exact .inl (by simp [same])

theorem has_exchanged (before after : Members) (key other : String) (v v' : Json) :
    has other (before ++ (key, v) :: after) = has other (before ++ (key, v') :: after) := by
  rcases get?_exchanged before after key other v v' with same | ⟨-, found, found'⟩
  · rw [has, has, same]
  · rw [has, has, found, found']
    rfl

end Members

end Json

section Records

variable {m m' : Members} {v v' : Json}

theorem UplinkFrame.ofMembers_congr (same : m.SameFields fieldNames m') :
    ofMembers m = ofMembers m' := by
  simp only [Members.SameFields, fieldNames, List.forall_mem_cons] at same
  obtain ⟨time, tmst, chan, rfch, freq, stat, modu, datr, codr, rssi, lsnr, size, data, -⟩ := same
  simp only [ofMembers, DataRate.read, Members.moment, Members.octets, Members.word, Members.int32,
    Members.float, Members.text, Members.optional, Members.withDefault, time, tmst, chan, rfch, freq,
    stat, modu, datr, codr, rssi, lsnr, size, data]

theorem StatusReport.ofMembers_congr (same : m.SameFields fieldNames m') :
    ofMembers m = ofMembers m' := by
  simp only [Members.SameFields, fieldNames, List.forall_mem_cons] at same
  obtain ⟨time, lati, long, alti, rxnb, rxok, rxfw, ackr, dwnb, txnb, -⟩ := same
  simp only [ofMembers, Members.moment, Members.word, Members.float, Members.optional,
    Members.withDefault, time, lati, long, alti, rxnb, rxok, rxfw, ackr, dwnb, txnb]

theorem DownlinkCommand.ofMembers_congr (same : m.SameFields fieldNames m') :
    ofMembers m = ofMembers m' := by
  simp only [Members.SameFields, fieldNames, List.forall_mem_cons] at same
  obtain ⟨imme, tmst, time, freq, rfch, powe, modu, datr, codr, fdev, ipol, prea, size, data, ncrc,
    -⟩ := same
  simp only [ofMembers, DataRate.read, Members.moment, Members.octets, Members.word, Members.float,
    Members.text, Members.optional, Members.withDefault, imme, tmst, time, freq, rfch, powe, modu,
    datr, codr, fdev, ipol, prea, size, data, ncrc]

theorem UplinkFrame.ofJson_congr (same : SameRecord fieldNames v v') : ofJson v = ofJson v' := by
  obtain ⟨m, m', record, record', fields⟩ := same
  rw [ofJson, ofJson, record, record']
  exact ofMembers_congr fields

theorem StatusReport.ofJson_congr (same : SameRecord fieldNames v v') : ofJson v = ofJson v' := by
  obtain ⟨m, m', record, record', fields⟩ := same
  rw [ofJson, ofJson, record, record']
  exact ofMembers_congr fields

theorem DownlinkCommand.ofJson_congr (same : SameRecord fieldNames v v') : ofJson v = ofJson v' := by
  obtain ⟨m, m', record, record', fields⟩ := same
  rw [ofJson, ofJson, record, record']
  exact ofMembers_congr fields

end Records

namespace Body

def recognised : List String := ["rxpk", "stat", "txpk"]

/-- The same bodies, but for one record: an entry of `rxpk`, the value of `stat`, or that of `txpk`. -/
inductive InRecord (related : List String → Json → Json → Prop) : Members → Members → Prop
  | frame {v v' : Json} (before after : Members) (front back : List Json)
    (pair : related UplinkFrame.fieldNames v v') :
    InRecord related (before ++ ("rxpk", .array (front ++ v :: back)) :: after)
      (before ++ ("rxpk", .array (front ++ v' :: back)) :: after)
  | status {v v' : Json} (before after : Members) (pair : related StatusReport.fieldNames v v') :
    InRecord related (before ++ ("stat", v) :: after) (before ++ ("stat", v') :: after)
  | command {v v' : Json} (before after : Members)
    (pair : related DownlinkCommand.fieldNames v v') :
    InRecord related (before ++ ("txpk", v) :: after) (before ++ ("txpk", v') :: after)

section

variable {m m' : Members} {related related' : List String → Json → Json → Prop}

theorem InRecord.mono (weaker : ∀ fields v v', related fields v v' → related' fields v v')
    (pair : InRecord related m m') : InRecord related' m m' := by
  cases pair with
  | frame before after front back pair => exact .frame before after front back (weaker _ _ _ pair)
  | status before after pair => exact .status before after (weaker _ _ _ pair)
  | command before after pair => exact .command before after (weaker _ _ _ pair)

theorem ofMembers_congr (direction : Direction) (has : ∀ key ∈ recognised, m.has key = m'.has key)
    (frames : readFrames m = readFrames m') (status : readStatus m = readStatus m')
    (command : readCommand m = readCommand m') : ofMembers direction m = ofMembers direction m' := by
  have rxpk := has "rxpk" (by decide)
  have stat := has "stat" (by decide)
  have txpk := has "txpk" (by decide)
  cases direction <;> simp only [ofMembers, rxpk, stat, txpk, frames, status, command]

theorem readFrames_congr (same : m.get? "rxpk" = m'.get? "rxpk") : readFrames m = readFrames m' := by
  simp only [readFrames, Members.optional, same]

theorem readStatus_congr (same : m.get? "stat" = m'.get? "stat") : readStatus m = readStatus m' := by
  simp only [readStatus, Members.optional, same]

theorem readCommand_congr (same : m.get? "txpk" = m'.get? "txpk") :
    readCommand m = readCommand m' := by
  simp only [readCommand, same]

theorem ofMembers_sameFields (direction : Direction) (same : m.SameFields recognised m') :
    ofMembers direction m = ofMembers direction m' :=
  ofMembers_congr direction (fun key member => congrArg Option.isSome (same key member))
    (readFrames_congr (same "rxpk" (by decide))) (readStatus_congr (same "stat" (by decide)))
    (readCommand_congr (same "txpk" (by decide)))

theorem readStatus_record {v : Json} {r : Members} (found : m.get? "stat" = some v)
    (record : v.recordMembers? StatusReport.fieldNames = some r) :
    readStatus m = some <$> StatusReport.ofJson v := by
  cases v with
  | null => cases record
  | _ => simp only [readStatus, Members.optional, found, Option.map_some]

theorem forEach_exchanged {α β : Type} {read : α → Reading β} {a a' : α} (same : read a = read a')
    (front back : List α) :
    forEach read (front ++ a :: back) = forEach read (front ++ a' :: back) := by
  induction front with
  | nil => simp only [List.nil_append, forEach, same]
  | cons first front ih => simp only [List.cons_append, forEach, ih]

theorem ofMembers_inRecord (direction : Direction) (pair : InRecord SameRecord m m') :
    ofMembers direction m = ofMembers direction m' := by
  -- A look-up for another key is as before; one for this key is as before or finds the record.
  cases pair with
  | @frame v v' before after front back same =>
    have found := Members.get?_exchanged before after "rxpk"
    refine ofMembers_congr direction (fun key _ => Members.has_exchanged before after "rxpk" key _ _)
      ?_ (readStatus_congr ((found "stat" _ _).resolve_right nofun))
      (readCommand_congr ((found "txpk" _ _).resolve_right nofun))
    rcases found "rxpk" (.array (front ++ v :: back)) (.array (front ++ v' :: back)) with
      same | ⟨-, given, given'⟩
    · exact readFrames_congr same
    · rw [reads_readFrames (.inl given), reads_readFrames (.inl given')]
      exact forEach_exchanged (UplinkFrame.ofJson_congr same) front back
  | @status v v' before after same =>
    have found := Members.get?_exchanged before after "stat"
    refine ofMembers_congr direction (fun key _ => Members.has_exchanged before after "stat" key _ _)
      (readFrames_congr ((found "rxpk" _ _).resolve_right nofun)) ?_
      (readCommand_congr ((found "txpk" _ _).resolve_right nofun))
    rcases found "stat" v v' with unchanged | ⟨-, given, given'⟩
    · exact readStatus_congr unchanged
    · have ⟨r, r', record, record', _⟩ := same
      rw [readStatus_record given record, readStatus_record given' record',
        StatusReport.ofJson_congr same]
  | @command v v' before after same =>
    have found := Members.get?_exchanged before after "txpk"
    refine ofMembers_congr direction (fun key _ => Members.has_exchanged before after "txpk" key _ _)
      (readFrames_congr ((found "rxpk" _ _).resolve_right nofun))
      (readStatus_congr ((found "stat" _ _).resolve_right nofun)) ?_
    rcases found "txpk" v v' with unchanged | ⟨-, given, given'⟩
    · exact readCommand_congr unchanged
    · rw [readCommand, readCommand, given, given']
      exact DownlinkCommand.ofJson_congr same

end

end Body

end GatewayLink
