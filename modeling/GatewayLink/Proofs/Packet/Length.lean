import GatewayLink.Packet.Basic
import GatewayLink.Proofs.Body.Records
import GatewayLink.Proofs.Json.Octets

/-! The length of a downlink on the wire.
Whatever else a packet holds, its octets are more than those that its command puts on air: Base64 has at least a
character for each of them, and no character is written as nothing. -/

namespace GatewayLink

section

variable {α β : Type} {f : α → List β} {as : List α}

theorem length_le_length_flatMap (filled : ∀ a ∈ as, f a ≠ []) :
    as.length ≤ (as.flatMap f).length := by
  induction as with
  | nil => exact Nat.zero_le _
  | cons a rest ih =>
    have one := List.length_pos_iff.mpr (filled a List.mem_cons_self)
    have later := ih fun b member => filled b (List.mem_cons_of_mem a member)
    rw [List.flatMap_cons, List.length_append, List.length_cons]
    omega

theorem length_le_of_mem_flatMap {a : α} (member : a ∈ as) :
    (f a).length ≤ (as.flatMap f).length := by
  obtain ⟨front, back, rfl⟩ := List.append_of_mem member
  rw [List.flatMap_append, List.flatMap_cons, List.length_append, List.length_append]
  omega

end

theorem Base64.length_le_length_encode (octets : List UInt8) :
    octets.length ≤ (encode octets).length := by
  fun_induction encode octets with
  | case1 | case2 | case3 => simp
  | case4 a b c rest n ih =>
    simp only [List.length_cons]
    omega

namespace Json

theorem escaped_ne_nil (c : Char) : escaped c ≠ [] := by
  unfold escaped
  repeat' split
  all_goals simp

theorem mem_memberLexemes {members : List (String × Json)} (key : String) {v : Json}
    {lexeme : Lexeme} (member : (key, v) ∈ members) (within : lexeme ∈ v.lexemes) :
    lexeme ∈ memberLexemes members := by
  induction members with
  | nil => cases member
  | cons first rest ih =>
    obtain ⟨name, value⟩ := first
    cases rest with
    | nil =>
      obtain ⟨rfl, rfl⟩ : key = name ∧ v = value := by simpa using member
      simp [memberLexemes, within]
    | cons next others =>
      rcases List.mem_cons.mp member with same | member
      · obtain ⟨rfl, rfl⟩ : key = name ∧ v = value := by simpa using same
        simp [memberLexemes, within]
      · simp [memberLexemes, ih member]

theorem mem_lexemes_ofFields {fields : List (String × Option Json)} (key : String) {v : Json}
    {lexeme : Lexeme} (member : (key, some v) ∈ fields) (within : lexeme ∈ v.lexemes) :
    lexeme ∈ (ofFields fields).lexemes := by
  rw [ofFields, lexemes]
  refine List.mem_cons_of_mem _ (List.mem_append_left _ (mem_memberLexemes key ?_ within))
  exact List.mem_filterMap.mpr ⟨(key, some v), member, rfl⟩

theorem length_le_octetsOfText (cs : List Char) :
    cs.length ≤ (octetsOfText (String.ofList cs)).length := by
  rw [octetsOfText_eq, String.toList_ofList]
  refine length_le_length_flatMap fun c _ empty => ?_
  have positive := c.utf8Size_pos
  have length := String.length_utf8EncodeChar c
  rw [empty, List.length_nil] at length
  omega

theorem length_le_of_mem_lexemes {cs : List Char} {v : Json}
    (within : .text (String.ofList cs) ∈ v.lexemes) :
    cs.length ≤ (octetsOfText v.compact).length :=
  calc
    cs.length ≤ (cs.flatMap escaped).length := length_le_length_flatMap fun c _ => escaped_ne_nil c
    _ ≤ (Lexeme.text (String.ofList cs)).chars.length := by
      simp only [Lexeme.chars, String.toList_ofList, List.length_append, List.length_cons]
      omega
    _ ≤ (v.lexemes.flatMap Lexeme.chars).length := length_le_of_mem_flatMap within
    _ ≤ (octetsOfText v.compact).length := length_le_octetsOfText _

end Json

theorem DownlinkCommand.length_le_length_octets (c : DownlinkCommand) :
    c.octets.length ≤ ((Body.downlink c).octets .downlink).length := by
  have held : Json.Lexeme.text (String.ofList (Base64.encode c.octets)) ∈ c.toJson.lexemes :=
    Json.mem_lexemes_ofFields "data" (v := .ofOctets c.octets) (by simp) (List.mem_singleton.mpr rfl)
  have written : Json.Lexeme.text (String.ofList (Base64.encode c.octets)) ∈
      ((Body.downlink c).toJson .downlink).lexemes :=
    Json.mem_lexemes_ofFields "txpk" (List.mem_singleton.mpr rfl) held
  exact (Base64.length_le_length_encode c.octets).trans (Json.length_le_of_mem_lexemes written)

theorem Packet.length_pullResp_gt (token : Token) (c : DownlinkCommand) :
    c.octets.length < (pullResp token c).octets.length := by
  have body := c.length_le_length_octets
  have layout : (pullResp token c).octets =
      currentVersion :: token.octets ++ PacketKind.pullResp.octet ::
        ((Body.downlink c).octets .downlink) := rfl
  rw [layout]
  simp only [List.length_cons, List.length_append]
  omega

end GatewayLink
