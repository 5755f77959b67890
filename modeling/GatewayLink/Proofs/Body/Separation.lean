import GatewayLink.Proofs.Body.Faults
import GatewayLink.Proofs.Body.RoundTrip

/-! Bodies of the two directions are kept apart by their keys.
A key of the other direction is refused before any form or conversion is looked at, but only in a document
that is one as a whole. What is written in one direction carries such a key, so the other refuses it. -/

namespace GatewayLink

open Json Reading

/-- The octets are an object with a member of this key at the top. The key is given as it is read, whatever
escapes it was written with. -/
def Json.Carries (octets : List UInt8) (key : String) : Prop :=
  ∃ m v, IsDocument octets (.object m) ∧ (key, v) ∈ m

theorem Json.IsDocument.unique {octets : List UInt8} {v w : Json} (first : IsDocument octets v)
    (second : IsDocument octets w) : v = w :=
  Option.some.inj ((parse?_eq_some.mpr first).symm.trans (parse?_eq_some.mpr second))

theorem Json.carries_iff {octets : List UInt8} {m : Members} {key : String}
    (document : IsDocument octets (.object m)) : Carries octets key ↔ m.has key = true := by
  rw [Members.has_eq_true]
  constructor
  · rintro ⟨m', v, document', member⟩
    cases document.unique document'
    exact ⟨v, member⟩
  · rintro ⟨v, member⟩
    exact ⟨m, v, document, member⟩

namespace Body

theorem ofMembers_uplink_eq_schema {m : Members} {cause : SchemaFault} :
    ofMembers .uplink m = .error (.schema cause) ↔ cause = .foundCommand ∧ m.has "txpk" = true := by
  rw [ofMembers]
  by_cases other : m.has "txpk" = true
  · rw [if_pos other, and_iff_left other, Except.error.injEq, Fault.schema.injEq, eq_comm]
  · rw [if_neg other]
    exact iff_of_false ofRecords_of_uplink fun found => other found.2

theorem ofMembers_downlink_eq_schema {m : Members} {cause : SchemaFault} :
    ofMembers .downlink m = .error (.schema cause) ↔
      cause = .foundFrames ∧ m.has "rxpk" = true ∨
        cause = .foundStatus ∧ ¬m.has "rxpk" = true ∧ m.has "stat" = true := by
  rw [ofMembers]
  by_cases frames : m.has "rxpk" = true
  · rw [if_pos frames]
    simp [frames, @eq_comm _ cause]
  · rw [if_neg frames]
    by_cases status : m.has "stat" = true
    · rw [if_pos status]
      simp [frames, status, @eq_comm _ cause]
    · rw [if_neg status]
      refine iff_of_false ofRecords_of_downlink ?_
      rintro (⟨-, found⟩ | ⟨-, -, found⟩)
      · exact frames found
      · exact status found

theorem decode_cases (direction : Direction) (octets : List UInt8) :
    (∃ m, IsDocument octets (.object m) ∧ decode direction octets = ofMembers direction m) ∨
      (¬∃ m, IsDocument octets (.object m)) ∧ decode direction octets = .error (.body .form) := by
  unfold decode
  split
  · next m parsed => exact .inl ⟨m, parse?_eq_some.mp parsed, rfl⟩
  · next other =>
    refine .inr ⟨?_, rfl⟩
    rintro ⟨m, document⟩
    exact other m (parse?_eq_some.mpr document)

theorem decode_uplink_eq_schema {octets : List UInt8} {cause : SchemaFault} :
    decode .uplink octets = .error (.schema cause) ↔
      cause = .foundCommand ∧ Carries octets "txpk" := by
  rcases decode_cases .uplink octets with ⟨m, document, outcome⟩ | ⟨noDocument, outcome⟩
  · rw [outcome, ofMembers_uplink_eq_schema, carries_iff document]
  · rw [outcome]
    refine iff_of_false nofun ?_
    rintro ⟨-, m, _, document, -⟩
    exact noDocument ⟨m, document⟩

theorem decode_downlink_eq_schema {octets : List UInt8} {cause : SchemaFault} :
    decode .downlink octets = .error (.schema cause) ↔
      cause = .foundFrames ∧ Carries octets "rxpk" ∨
        cause = .foundStatus ∧ ¬Carries octets "rxpk" ∧ Carries octets "stat" := by
  rcases decode_cases .downlink octets with ⟨m, document, outcome⟩ | ⟨noDocument, outcome⟩
  · rw [outcome, ofMembers_downlink_eq_schema, carries_iff document, carries_iff document]
  · rw [outcome]
    refine iff_of_false nofun ?_
    rintro (⟨-, m, _, document, -⟩ | ⟨-, -, m, _, document, -⟩)
    · exact noDocument ⟨m, document⟩
    · exact noDocument ⟨m, document⟩

theorem carries_of_decode_downlink {octets : List UInt8} {b : Body}
    (decoded : decode .downlink octets = .ok b) : Carries octets "txpk" := by
  rcases decode_cases .downlink octets with ⟨m, document, outcome⟩ | ⟨-, outcome⟩
  · rw [outcome] at decoded
    unfold ofMembers at decoded
    dsimp only at decoded
    split at decoded
    · cases decoded
    · split at decoded
      · cases decoded
      · obtain ⟨c, given, -⟩ := gives_map.mp (result_eq_ok.mp decoded)
        obtain ⟨command, known⟩ := hasForm_readCommand_iff.mp given.hasForm
        rw [carries_iff document, Members.has, known.given]
        rfl
  · rw [outcome] at decoded
    cases decoded

theorem document_octets (direction : Direction) (b : Body) {fields : List (String × Option Json)}
    (written : b.toJson direction = ofFields fields) :
    ∃ m : Members, IsDocument (b.octets direction) (.object m) ∧ Rewritten fields m := by
  have readable := isSome_reread_toJson direction b
  rw [written] at readable
  obtain ⟨m, reread, known⟩ := exists_rewritten readable
  refine ⟨m, parse?_eq_some.mp ?_, known⟩
  rw [parse?_octets, written, ofFields_eq, reread?, reread]
  rfl

theorem decode_encoded_downlink {b : Body} {octets : List UInt8}
    (encoded : b.encode .downlink = .ok octets) :
    decode .uplink octets = .error (.schema .foundCommand) := by
  obtain ⟨checked, rfl⟩ := encode_eq_ok.mp encoded
  obtain ⟨-, -, c, command, -⟩ := checkDownlink_eq_ok.mp checked
  obtain ⟨m, document, known⟩ := document_octets .downlink b rfl
  refine decode_uplink_eq_schema.mpr ⟨rfl, ?_⟩
  rw [carries_iff document, known.has, command]
  rfl

theorem decode_encoded_uplink {b : Body} {octets : List UInt8}
    (encoded : b.encode .uplink = .ok octets) :
    decode .downlink octets = .error (if b.frames ≠ [] then .schema .foundFrames
      else if b.status.isSome then .schema .foundStatus else .body .form) := by
  obtain ⟨checked, rfl⟩ := encode_eq_ok.mp encoded
  obtain ⟨m, document, known⟩ := document_octets .uplink b rfl
  have frames : m.has "rxpk" = true ↔ b.frames ≠ [] := by
    rw [known.has]
    by_cases empty : b.frames = [] <;> simp [empty]
  have status : m.has "stat" = true ↔ b.status.isSome = true := by
    rw [known.has]
    simp
  have command : m.get? "txpk" = none := known.absent rfl
  rw [decode_document document, ofMembers, readCommand, command]
  simp only [frames, status]
  split_ifs <;> rfl

/-- The directions exclude each other. A body is refused for a part of the other direction exactly if it is the
document of an object with a key of that direction, whatever else the object holds; what is written in one
direction is refused in the other; and no octets are a body in both. -/
theorem directions_exclusive :
    (∀ octets cause, decode .uplink octets = .error (.schema cause) ↔
      cause = .foundCommand ∧ Carries octets "txpk") ∧
    (∀ octets cause, decode .downlink octets = .error (.schema cause) ↔
      cause = .foundFrames ∧ Carries octets "rxpk" ∨
        cause = .foundStatus ∧ ¬Carries octets "rxpk" ∧ Carries octets "stat") ∧
    (∀ b octets, encode .downlink b = .ok octets →
      decode .uplink octets = .error (.schema .foundCommand)) ∧
    (∀ b octets, encode .uplink b = .ok octets →
      decode .downlink octets = .error (if b.frames ≠ [] then .schema .foundFrames
        else if b.status.isSome then .schema .foundStatus else .body .form)) ∧
    ∀ octets up down, decode .uplink octets = .ok up → decode .downlink octets ≠ .ok down := by
  refine ⟨fun octets cause => decode_uplink_eq_schema, fun octets cause => decode_downlink_eq_schema,
    fun b octets => decode_encoded_downlink, fun b octets => decode_encoded_uplink, ?_⟩
  intro octets up down decodedUp decodedDown
  have refused := decode_uplink_eq_schema.mpr ⟨rfl, carries_of_decode_downlink decodedDown⟩
  cases decodedUp.symm.trans refused

theorem directions_exclusive_escaped :
    decode .downlink (octetsOfText "\x7b\"st\\u0061t\":0, \"r\\u0078pk\":null\x7d") =
      .error (.schema .foundFrames) := by
  have document : IsDocument (octetsOfText "\x7b\"st\\u0061t\":0, \"r\\u0078pk\":null\x7d")
      (.object [("stat", .number (.integer 0)), ("rxpk", .null)]) := by
    refine parse?_eq_some.mp ?_
    rw [parse?, charsOfOctets?_octetsOfText]
    rfl
  exact (directions_exclusive.2.1 _ _).mpr (.inl ⟨rfl, (carries_iff document).mpr rfl⟩)

end Body

end GatewayLink
