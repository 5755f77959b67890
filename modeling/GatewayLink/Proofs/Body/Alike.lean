import Mathlib.Data.List.Perm.Basic
import Mathlib.Logic.Relation
import GatewayLink.Proofs.Body.Lookup

/-! Bodies that are read alike.
The order of members, members with unknown keys and members that a later one repeats are of no account, at the
top of a body as in its records. Neither what is read changes with them nor the fault that is reported. -/

namespace GatewayLink

open Json

namespace Json.Members

/-- The same object but for what is not looked up in it: the order of members with distinct keys, a member that
has none of the keys, a member that a later one repeats. -/
inductive Differ (keys : List String) : Members → Members → Prop
  | order {block block' : Members} (before after : Members) (reordered : block.Perm block')
    (distinct : (block.map Prod.fst).Nodup) :
    Differ keys (before ++ block ++ after) (before ++ block' ++ after)
  | unknown {key : String} (before after : Members) (v : Json) (foreign : key ∉ keys) :
    Differ keys (before ++ after) (before ++ (key, v) :: after)
  | shadowed {key : String} {later : Json} (before after : Members) (v : Json)
    (repeated : (key, later) ∈ after) :
    Differ keys (before ++ after) (before ++ (key, v) :: after)

variable {m m' : Members} {key : String} {v : Json}

theorem get?_eq_some_of_distinct (distinct : (m.map Prod.fst).Nodup) :
    m.get? key = some v ↔ (key, v) ∈ m := by
  refine ⟨mem_of_get?, fun member => ?_⟩
  induction m with
  | nil => cases member
  | cons first rest ih =>
    obtain ⟨k, w⟩ := first
    rw [List.map_cons, List.nodup_cons] at distinct
    rw [get?]
    rcases List.mem_cons.mp member with same | member
    · cases same
      cases there : get? key rest with
      | none => simp
      | some later =>
        exact absurd (List.mem_map_of_mem (mem_of_get? there)) distinct.1
    · rw [ih distinct.2 member]

theorem get?_perm {m m' : Members} (reordered : m.Perm m') (distinct : (m.map Prod.fst).Nodup)
    (key : String) : m.get? key = m'.get? key := by
  have distinct' : (m'.map Prod.fst).Nodup := (reordered.map Prod.fst).nodup_iff.mp distinct
  ext v
  rw [get?_eq_some_of_distinct distinct, get?_eq_some_of_distinct distinct', reordered.mem_iff]

theorem get?_ignored (before after : Members) (v : Json) {k : String}
    (ignored : k ≠ key ∨ after.has k = true) :
    get? key (before ++ after) = get? key (before ++ (k, v) :: after) := by
  rw [get?_append, get?_append, get?]
  cases found : get? key after with
  | some later => rfl
  | none =>
    have other : k ≠ key := ignored.elim id fun repeated same => by
      subst same
      rw [has, found] at repeated
      cases repeated
    simp [other]

theorem Differ.sameFields {keys : List String} (differ : m.Differ keys m') : m.SameFields keys m' := by
  intro key member
  cases differ with
  | order before after reordered distinct =>
    simp only [get?_append, get?_perm reordered distinct key]
  | unknown before after v foreign =>
    exact get?_ignored before after v (.inl fun same => foreign (same ▸ member))
  | shadowed before after v repeated =>
    exact get?_ignored before after v (.inr (has_eq_true.mpr ⟨_, repeated⟩))

end Json.Members

namespace Body

def RecordsDiffer (fields : List String) (v v' : Json) : Prop :=
  ∃ m m' : Members, v = .object m ∧ v' = .object m' ∧ m.Differ fields m'

/-- The same body but for what is not looked up, at the top or in one of its records. -/
inductive Differ : Members → Members → Prop
  | top {m m' : Members} (differ : m.Differ recognised m') : Differ m m'
  | inside {m m' : Members} (pair : InRecord RecordsDiffer m m') : Differ m m'

/-- The same body but for any number of such differences. -/
def Alike : Members → Members → Prop := Relation.EqvGen Differ

variable {m m' : Members}

theorem Differ.ofMembers_eq (direction : Direction) (differ : Differ m m') :
    ofMembers direction m = ofMembers direction m' := by
  cases differ with
  | top differ => exact ofMembers_sameFields direction differ.sameFields
  | inside pair =>
    refine ofMembers_inRecord direction (pair.mono fun fields v v' differ => ?_)
    obtain ⟨r, r', rfl, rfl, differ⟩ := differ
    exact ⟨r, r', rfl, rfl, differ.sameFields⟩

theorem Alike.ofMembers_eq (direction : Direction) (alike : Alike m m') :
    ofMembers direction m = ofMembers direction m' := by
  induction alike with
  | rel m m' differ => exact differ.ofMembers_eq direction
  | refl m => rfl
  | symm m m' _ same => exact same.symm
  | trans m m' m'' _ _ first second => exact first.trans second

/-- Two bodies that differ only in what is not looked up are decoded to the same, in either direction: to the same
parts or to the same fault. -/
theorem decode_alike (direction : Direction) (octets octets' : List UInt8) (m m' : Members)
    (document : IsDocument octets (.object m)) (document' : IsDocument octets' (.object m'))
    (alike : Alike m m') : decode direction octets = decode direction octets' := by
  rw [decode_document document, decode_document document', alike.ofMembers_eq direction]

def plainRecord : Members :=
  [("modu", .text "LORA"), ("datr", .text "SF7BW125"), ("stat", ofInt32 7)]

def laxRecord : Members :=
  ("aesk", ofWord 0) :: plainRecord.reverse

def plainBody : Members := [("rxpk", .array [.object plainRecord])]

def laxBody : Members :=
  [("rxpk", .text "none"), ("brand", .null), ("rxpk", .array [.object laxRecord])]

theorem alike_laxBody : Alike plainBody laxBody := by
  have within {r r' : Members} (differ : r.Differ UplinkFrame.fieldNames r') :
      Alike [("rxpk", .array [.object r])] [("rxpk", .array [.object r'])] :=
    .rel _ _ (.inside (.frame [] [] [] [] ⟨r, r', rfl, rfl, differ⟩))
  have reversed : plainRecord.Differ UplinkFrame.fieldNames plainRecord.reverse := by
    have step : Members.Differ UplinkFrame.fieldNames ([] ++ plainRecord ++ [])
        ([] ++ plainRecord.reverse ++ []) :=
      .order [] [] (List.reverse_perm plainRecord).symm (by decide)
    simpa only [List.nil_append, List.append_nil] using step
  have extended : Members.Differ UplinkFrame.fieldNames plainRecord.reverse laxRecord :=
    .unknown [] plainRecord.reverse (ofWord 0) (by decide)
  have branded : Members.Differ recognised [("rxpk", .array [.object laxRecord])]
      [("brand", .null), ("rxpk", .array [.object laxRecord])] :=
    .unknown [] [("rxpk", .array [.object laxRecord])] .null (by decide)
  have shadowed : Members.Differ recognised [("brand", .null), ("rxpk", .array [.object laxRecord])]
      laxBody :=
    .shadowed [] [("brand", .null), ("rxpk", .array [.object laxRecord])] (.text "none")
      (List.mem_cons_of_mem _ List.mem_cons_self)
  exact (within reversed).trans _ _ _ <| (within extended).trans _ _ _ <|
    (Relation.EqvGen.rel _ _ (Differ.top branded)).trans _ _ _ (.rel _ _ (.top shadowed))

theorem decode_alike_lax :
    decode .uplink (octetsOfText (Json.object plainBody).compact) =
      decode .uplink (octetsOfText (Json.object laxBody).compact) := by
  have document : IsDocument (octetsOfText (Json.object plainBody).compact) (.object plainBody) :=
    parse?_eq_some.mp (parse?_compact (by decide))
  have document' : IsDocument (octetsOfText (Json.object laxBody).compact) (.object laxBody) :=
    parse?_eq_some.mp (parse?_compact (by decide))
  exact decode_alike .uplink _ _ _ _ document document' alike_laxBody

end Body

end GatewayLink
