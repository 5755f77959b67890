import GatewayLink.Proofs.Toml.Tree

/-! The integers inside TOML values.
A container holds what its items hold and what stands under its keys. An inline table holds what is assigned in it,
however the dotted keys of its assignments part them into tables. -/

namespace GatewayLink.Toml

inductive Value.Holds (i : Int) : Value → Prop
  | integer : Holds i (.integer i)
  | item {items : List Value} {v : Value} (member : v ∈ items) (holds : Holds i v) : Holds i (.array items)
  | member {members : Entries} {key : String} {v : Value} (member : members.lookup key = some v)
    (holds : Holds i v) : Holds i (.table members)

def FitsInt64 (i : Int) : Prop := -0x8000000000000000 ≤ i ∧ i < 0x8000000000000000

def Value.Fits (v : Value) : Prop := ∀ i, v.Holds i → FitsInt64 i

namespace Value

variable {i : Int} {items : List Value} {members : Entries}

theorem holds_integer {j : Int} : (Value.integer j).Holds i ↔ j = i := by
  constructor
  · rintro ⟨⟩
    rfl
  · rintro rfl
    exact .integer

theorem holds_array : (Value.array items).Holds i ↔ ∃ v ∈ items, v.Holds i := by
  constructor
  · rintro (_ | ⟨member, holds⟩)
    exact ⟨_, member, holds⟩
  · rintro ⟨v, member, holds⟩
    exact .item member holds

theorem holds_table : (Value.table members).Holds i ↔ ∃ key v, members.lookup key = some v ∧ v.Holds i := by
  constructor
  · rintro (_ | _ | ⟨member, holds⟩)
    exact ⟨_, _, member, holds⟩
  · rintro ⟨key, v, member, holds⟩
    exact .member member holds

theorem fits_integer : (Value.integer i).Fits ↔ FitsInt64 i := by
  simp [Fits, holds_integer]

theorem fits_of_parts {ι : Type} {v : Value} {held : ι → Prop} (part : ι → Value)
    (parts : ∀ i, v.Holds i ↔ ∃ k, held k ∧ (part k).Holds i) : v.Fits ↔ ∀ k, held k → (part k).Fits := by
  simp only [Fits, parts]
  exact ⟨fun all k member i holds => all i ⟨k, member, holds⟩,
    fun all i ⟨k, member, holds⟩ => all k member i holds⟩

theorem fits_array : (Value.array items).Fits ↔ ∀ v ∈ items, v.Fits :=
  fits_of_parts id fun _ => holds_array

theorem fits_table : (Value.table members).Fits ↔ ∀ key v, members.lookup key = some v → v.Fits := by
  have parts (i : Int) : (Value.table members).Holds i ↔
      ∃ entry : String × Value, members.lookup entry.1 = some entry.2 ∧ entry.2.Holds i := by
    rw [holds_table, Prod.exists]
  rw [fits_of_parts Prod.snd parts, Prod.forall]

end Value

namespace Branch

variable {i : Int} {b b' : Branch} {dotted : Bool} {key : String} {n : Node} {added : Prop}

def value (b : Branch) : Value := .table (entryValues b.entries)

theorem holds_value : b.value.Holds i ↔ ∃ key n, b.get? key = some n ∧ n.toValue.Holds i := by
  rw [value, Value.holds_table]
  constructor
  · rintro ⟨key, v, member, holds⟩
    rw [lookup_entryValues] at member
    obtain ⟨n, found, rfl⟩ := Option.map_eq_some_iff.mp member
    exact ⟨key, n, found, holds⟩
  · rintro ⟨key, n, found, holds⟩
    have here : b.entries.lookup key = some n := found
    exact ⟨key, n.toValue, by rw [lookup_entryValues, here, Option.map_some], holds⟩

theorem holds_set
    (gains : n.toValue.Holds i ↔ (∃ m, b.get? key = some m ∧ m.toValue.Holds i) ∨ added) :
    (b.set key n).value.Holds i ↔ b.value.Holds i ∨ added := by
  rw [holds_value, holds_value]
  constructor
  · rintro ⟨other, m, found, holds⟩
    rw [get?_set] at found
    split at found
    · obtain rfl := Option.some.inj found
      exact (gains.mp holds).imp_left fun ⟨m, found, holds⟩ => ⟨key, m, found, holds⟩
    · exact .inl ⟨other, m, found, holds⟩
  · rintro (⟨other, m, found, holds⟩ | here)
    · by_cases same : other = key
      · subst same
        exact ⟨other, n, by rw [get?_set, if_pos rfl], gains.mpr (.inl ⟨m, found, holds⟩)⟩
      · exact ⟨other, m, by rw [get?_set, if_neg same, found], holds⟩
    · exact ⟨key, n, by rw [get?_set, if_pos rfl], gains.mpr (.inr here)⟩

theorem holds_tables (entries : List (String × Node)) (earlier : List (List (String × Node))) :
    (Node.tables (entries :: earlier)).toValue.Holds i ↔
      (Value.table (entryValues entries)).Holds i ∨ (Node.tables earlier).toValue.Holds i := by
  simp [Node.toValue, tableValues, Value.holds_array, or_comm]

theorem holds_graft {table : Branch} (led : leads dotted (b.mark? [key]) = true)
    (gains : table.value.Holds i ↔ (b.child dotted key).value.Holds i ∨ added) :
    (b.graft key table).value.Holds i ↔ b.value.Holds i ∨ added := by
  rw [graft]
  refine holds_set ?_
  rw [child] at gains
  rw [mark?] at led
  cases found : b.get? key with
  | none =>
    have empty : ¬(⟨true, dotted, []⟩ : Branch).value.Holds i := fun holds => by
      obtain ⟨_, _, absent, -⟩ := holds_value.mp holds
      cases absent
    simp only [found, Option.bind_none, Option.getD_none, empty, false_or] at gains
    have whole : table.node.toValue.Holds i ↔ added := gains
    simpa using whole
  | some n =>
    rw [found] at gains led
    cases n with
    | value v => cases led
    | table implicit wasDotted entries =>
      have whole : table.node.toValue.Holds i ↔ (Node.table implicit wasDotted entries).toValue.Holds i ∨ added :=
        gains
      simpa using whole
    | tables elements =>
      cases elements with
      | nil => cases led
      | cons latest earlier =>
        have whole : (Value.table (entryValues table.entries)).Holds i ↔
            (Value.table (entryValues latest)).Holds i ∨ added := gains
        simp [holds_tables, whole, or_right_comm]

theorem holds_descend {path : Path} {change : Branch → Option Branch}
    (changed : ∀ t t', change t = some t' → (t'.value.Holds i ↔ t.value.Holds i ∨ added))
    (done : b.descend dotted change path = some b') : b'.value.Holds i ↔ b.value.Holds i ∨ added := by
  -- at each step up the table under the key gains what its own table has gained
  induction path generalizing b b' with
  | nil => exact changed _ _ done
  | cons key path ih =>
    rw [descend_cons] at done
    split at done
    · next led =>
      obtain ⟨table, built, rfl⟩ := Option.map_eq_some_iff.mp done
      exact holds_graft led (ih built)
    · cases done

theorem holds_setValue {path : Path} {v : Value} (assigned : b.setValue path key (.value v) = some b') :
    b'.value.Holds i ↔ b.value.Holds i ∨ v.Holds i := by
  refine holds_descend (fun t t' changed => ?_) assigned
  split at changed
  · cases changed
  · next free =>
    obtain rfl := Option.some.inj changed
    simp only [Bool.or_eq_true, not_or, Option.not_isSome_iff_eq_none] at free
    exact holds_set (by simp [free.2, Node.toValue])

end Branch

theorem holds_inlineTable {i : Int} {assignments : List (Path × String × Value)} {v : Value}
    (described : inlineTable? assignments = some v) : v.Holds i ↔ ∃ a ∈ assignments, a.2.2.Holds i := by
  have gathered (b b' : Branch)
      (done : assignments.foldlM (fun b a => b.setValue a.1 a.2.1 (.value a.2.2)) b = some b') :
      b'.value.Holds i ↔ b.value.Holds i ∨ ∃ a ∈ assignments, a.2.2.Holds i := by
    clear described
    induction assignments generalizing b with
    | nil =>
      obtain rfl := Option.some.inj done
      simp
    | cons a assignments ih =>
      obtain ⟨path, key, w⟩ := a
      obtain ⟨next, assigned, rest⟩ := Option.bind_eq_some_iff.mp ((List.foldlM_cons ..).symm.trans done)
      rw [ih next rest, Branch.holds_setValue assigned, or_assoc]
      simp only [List.mem_cons, exists_eq_or_imp]
  obtain ⟨b, done, rfl⟩ := Option.map_eq_some_iff.mp described
  refine (gathered .root b done).trans (or_iff_right fun holds => ?_)
  obtain ⟨key, n, found, -⟩ := Branch.holds_value.mp holds
  cases found

theorem fits_inlineTable {assignments : List (Path × String × Value)} {v : Value}
    (described : inlineTable? assignments = some v) : v.Fits ↔ ∀ a ∈ assignments, a.2.2.Fits :=
  Value.fits_of_parts (fun a : Path × String × Value => a.2.2) fun _ => holds_inlineTable described

end GatewayLink.Toml
