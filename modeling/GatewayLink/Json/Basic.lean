import GatewayLink.Json.Number

/-! JSON values. An object keeps its members as they were written, repeated keys included; a look-up
finds the last member of that key. `canonical` orders the members by key and keeps the last of each. -/

namespace GatewayLink

inductive Json where
  | null
  | bool (value : Bool)
  | number (value : Json.Number)
  | text (value : String)
  | array (items : List Json)
  | object (members : List (String × Json))

namespace Json

abbrev Members := List (String × Json)

def Members.get? (key : String) : Members → Option Json
  | [] => none
  | (k, v) :: rest =>
    match Members.get? key rest with
    | some later => some later
    | none => if k = key then some v else none

def Members.has (key : String) (members : Members) : Bool := (members.get? key).isSome

@[simp] theorem Members.get?_nil (key : String) : Members.get? key [] = none := rfl

theorem Members.get?_append (key : String) (front back : Members) :
    Members.get? key (front ++ back) = (back.get? key).or (front.get? key) := by
  induction front with
  | nil => simp
  | cons member rest ih =>
    obtain ⟨k, v⟩ := member
    rw [List.cons_append, Members.get?, ih, Members.get?]
    cases back.get? key <;> cases Members.get? key rest <;> simp

def Members.insert (key : String) (value : Json) : Members → Members
  | [] => [(key, value)]
  | (k, v) :: rest =>
    if key < k then (key, value) :: (k, v) :: rest
    else if key = k then (key, value) :: rest
    else (k, v) :: Members.insert key value rest

def Members.ordered (members : Members) : Members :=
  members.foldl (fun sorted (key, value) => sorted.insert key value) []

mutual

def canonical : Json → Json
  | .array items => .array (canonicalItems items)
  | .object members => .object (Members.ordered (canonicalMembers members))
  | v => v

def canonicalItems : List Json → List Json
  | [] => []
  | v :: rest => v.canonical :: canonicalItems rest

def canonicalMembers : List (String × Json) → List (String × Json)
  | [] => []
  | (key, v) :: rest => (key, v.canonical) :: canonicalMembers rest

end

end Json

end GatewayLink
