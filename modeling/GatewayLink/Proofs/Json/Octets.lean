import GatewayLink.Json.Document

/-! Texts as UTF-8 octets: every text is read back from its octets, and the octets of an ASCII text are
the code points of its characters. -/

namespace GatewayLink.Json

theorem toList_eq_data (bytes : ByteArray) : bytes.toList = bytes.data.toList := by
  have loops (count i : Nat) (read : List UInt8) (left : bytes.size - i = count) :
      ByteArray.toList.loop bytes i read = read.reverse ++ bytes.data.toList.drop i := by
    induction count generalizing i read with
    | zero =>
      have past : ¬ i < bytes.size := by omega
      have finished : bytes.data.toList.drop i = [] :=
        List.drop_eq_nil_of_le (Nat.le_of_not_lt past)
      rw [ByteArray.toList.loop, if_neg past, finished, List.append_nil]
    | succ count ih =>
      have within : i < bytes.size := by omega
      have inList : i < bytes.data.toList.length := within
      have here : bytes.get! i = bytes.data.toList[i] := by
        cases bytes
        exact getElem!_pos _ i within
      rw [ByteArray.toList.loop, if_pos within, ih (i + 1) _ (by omega), here,
        List.drop_eq_getElem_cons inList]
      simp
  exact (loops bytes.size 0 [] rfl).trans rfl

theorem octetsOfText_eq (s : String) :
    octetsOfText s = s.toList.flatMap String.utf8EncodeChar := by
  rw [octetsOfText, String.toUTF8_eq_toByteArray, ← String.utf8Encode_toList, toList_eq_data,
    List.utf8Encode, List.toList_data_toByteArray]

theorem charsOfOctets?_octetsOfText (s : String) :
    charsOfOctets? (octetsOfText s) = some s.toList := by
  have same : ByteArray.mk (octetsOfText s).toArray = s.toList.utf8Encode := by
    rw [octetsOfText, String.toUTF8_eq_toByteArray, toList_eq_data, String.utf8Encode_toList]
  rw [charsOfOctets?, same, List.utf8Decode?_utf8Encode, Option.map_some]

theorem charsOfOctets?_eq_some {octets : List UInt8} {cs : List Char} :
    charsOfOctets? octets = some cs ↔ octets = octetsOfText (String.ofList cs) := by
  constructor
  · intro decoded
    obtain ⟨chars, found, rfl⟩ := Option.map_eq_some_iff.mp decoded
    have read : (ByteArray.mk octets.toArray).utf8Decode?.isSome = true := by rw [found]; rfl
    have encoded := ByteArray.utf8Encode_get_utf8Decode? (h := read)
    simp only [found, Option.get_some] at encoded
    rw [octetsOfText, String.toUTF8_eq_toByteArray, ← String.utf8Encode_toList, String.toList_ofList,
      encoded, toList_eq_data]
  · rintro rfl
    rw [charsOfOctets?_octetsOfText, String.toList_ofList]

theorem octetsOfText_ascii {cs : List Char} (ascii : ∀ c ∈ cs, c.toNat < 128) :
    octetsOfText (String.ofList cs) = cs.map fun c => UInt8.ofNat c.toNat := by
  rw [octetsOfText_eq, String.toList_ofList]
  induction cs with
  | nil => rfl
  | cons c cs ih =>
    have small : c.utf8Size = 1 := by
      rw [Char.utf8Size_eq_one_iff, UInt32.le_iff_toNat_le]
      exact Nat.le_of_lt_succ (ascii c List.mem_cons_self)
    rw [List.flatMap_cons, String.utf8EncodeChar_eq_singleton small, List.map_cons,
      ih fun c member => ascii c (List.mem_cons_of_mem _ member)]
    rfl

theorem octetsOfText_append (front back : List Char) :
    octetsOfText (String.ofList (front ++ back)) =
      octetsOfText (String.ofList front) ++ octetsOfText (String.ofList back) := by
  simp only [octetsOfText_eq, String.toList_ofList, List.flatMap_append]

theorem octetsOfText_inj {s t : String} (same : octetsOfText s = octetsOfText t) : s = t := by
  have chars := congrArg charsOfOctets? same
  rw [charsOfOctets?_octetsOfText, charsOfOctets?_octetsOfText, Option.some.injEq] at chars
  exact String.toList_inj.mp chars

end GatewayLink.Json
