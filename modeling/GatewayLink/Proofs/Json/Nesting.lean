import GatewayLink.Proofs.Json.Grammar

/-! Texts of values that may be nested too deeply.
How deep a value is nested shows in its lexemes. So a text of a value is parsed to that value or, if it is
nested too deeply, not at all. -/

namespace GatewayLink.Json

theorem depthMembers_eq (members : Members) :
    depthMembers members = depthItems (members.map Prod.snd) := by
  induction members with
  | nil => rfl
  | cons first rest ih => rw [depthMembers, ih, List.map_cons, depthItems]

theorem depthItems_append (front back : List Json) :
    depthItems (front ++ back) = max (depthItems front) (depthItems back) := by
  induction front with
  | nil => simp [depthItems]
  | cons first rest ih => rw [List.cons_append, depthItems, ih, depthItems, Nat.max_assoc]

/-- The octets are UTF-8 of a text that consists of the lexemes of a value, however deep. -/
def IsText (octets : List UInt8) (v : Json) : Prop :=
  ∃ cs, octets = octetsOfText (String.ofList cs) ∧ Laid v.lexemes cs

def nesting (depth : Nat) : List Lexeme → Nat
  | [] => depth
  | .beginArray :: rest => nesting (depth + 1) rest
  | .beginObject :: rest => nesting (depth + 1) rest
  | .endArray :: rest => max depth (nesting (depth - 1) rest)
  | .endObject :: rest => max depth (nesting (depth - 1) rest)
  | _ :: rest => nesting depth rest

theorem nesting_comma (depth : Nat) (ls : List Lexeme) :
    nesting depth (.comma :: ls) = nesting depth ls := rfl

theorem nesting_key (depth : Nat) (key : String) (ls : List Lexeme) :
    nesting depth (.text key :: .colon :: ls) = nesting depth ls := rfl

theorem le_nesting (depth : Nat) (ls : List Lexeme) : depth ≤ nesting depth ls := by
  induction ls generalizing depth with
  | nil => exact Nat.le_refl depth
  | cons l rest ih =>
    cases l with
    | beginArray => exact Nat.le_of_succ_le (ih (depth + 1))
    | beginObject => exact Nat.le_of_succ_le (ih (depth + 1))
    | endArray => exact Nat.le_max_left _ _
    | endObject => exact Nat.le_max_left _ _
    | _ => exact ih depth

theorem nesting_closed (opened inner : Nat) (tail : List Lexeme) :
    max (opened + 1 + inner) (max (opened + 1) (nesting (opened + 1 - 1) tail)) =
      max (opened + (inner + 1)) (nesting opened tail) := by
  rw [Nat.add_sub_cancel]
  omega

mutual

theorem nesting_lexemes (v : Json) (opened : Nat) (tail : List Lexeme) :
    nesting opened (v.lexemes ++ tail) = max (opened + v.depth) (nesting opened tail) := by
  have scalar := Nat.max_eq_right (le_nesting opened tail)
  cases v with
  | array items =>
    rw [lexemes, depth, ← nesting_closed, List.cons_append, List.cons_append, List.append_assoc]
    exact nesting_itemLexemes items (opened + 1) _
  | object members =>
    rw [lexemes, depth, ← nesting_closed, List.cons_append, List.cons_append, List.append_assoc]
    exact nesting_memberLexemes members (opened + 1) _
  | _ => exact scalar.symm

theorem nesting_itemLexemes (items : List Json) (opened : Nat) (tail : List Lexeme) :
    nesting opened (itemLexemes items ++ tail) =
      max (opened + depthItems items) (nesting opened tail) := by
  match items with
  | [] => exact (Nat.max_eq_right (le_nesting opened tail)).symm
  | [v] =>
    rw [itemLexemes, depthItems, depthItems, Nat.max_zero]
    exact nesting_lexemes v opened tail
  | v :: next :: rest =>
    have deep : depthItems (v :: next :: rest) = max v.depth (depthItems (next :: rest)) := rfl
    rw [itemLexemes_cons v (List.cons_ne_nil next rest), List.append_assoc, nesting_lexemes v,
      List.cons_append, nesting_comma, nesting_itemLexemes (next :: rest), deep]
    omega

theorem nesting_memberLexemes (members : List (String × Json)) (opened : Nat) (tail : List Lexeme) :
    nesting opened (memberLexemes members ++ tail) =
      max (opened + depthMembers members) (nesting opened tail) := by
  match members with
  | [] => exact (Nat.max_eq_right (le_nesting opened tail)).symm
  | [(key, v)] =>
    rw [memberLexemes, depthMembers, depthMembers, Nat.max_zero]
    exact nesting_lexemes v opened tail
  | (key, v) :: next :: rest =>
    have deep : depthMembers ((key, v) :: next :: rest) =
        max v.depth (depthMembers (next :: rest)) := rfl
    rw [memberLexemes_cons key v (List.cons_ne_nil next rest), List.append_assoc, List.cons_append,
      List.cons_append, nesting_key, nesting_lexemes v, List.cons_append, nesting_comma,
      nesting_memberLexemes (next :: rest), deep]
    omega

end

theorem depth_eq_of_lexemes {v w : Json} (same : v.lexemes = w.lexemes) : v.depth = w.depth := by
  have deep (v : Json) : nesting 0 v.lexemes = v.depth := by
    have all := nesting_lexemes v 0 []
    rw [List.append_nil, nesting] at all
    omega
  rw [← deep v, ← deep w, same]

theorem parse?_text {octets : List UInt8} {v : Json} (text : IsText octets v) :
    parse? octets = if v.depth ≤ maxDepth then some v else none := by
  split
  · next fits => exact parse?_eq_some.mpr ⟨fits, text⟩
  · next deep =>
    rw [Option.eq_none_iff_forall_ne_some]
    intro w parsed
    obtain ⟨fits, cs', same, laid'⟩ := parse?_eq_some.mp parsed
    obtain ⟨cs, rfl, laid⟩ := text
    cases String.ofList_inj.mp (octetsOfText_inj same)
    have lexemes : v.lexemes = w.lexemes :=
      Option.some.inj ((scan?_eq_some.mpr laid).symm.trans (scan?_eq_some.mpr laid'))
    exact deep (depth_eq_of_lexemes lexemes ▸ fits)

end GatewayLink.Json
