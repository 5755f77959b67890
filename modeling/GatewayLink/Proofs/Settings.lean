import GatewayLink.Proofs.Toml.Document
import GatewayLink.Settings

/-! What a TOML document makes of the settings.
The session policy is told key by key: `SessionKey` names the four keys with their ranges. A document declares settings
if it keeps the rules of TOML and gives the fields of the three sections, in any order and among any others.
Then the settings are those that it declares, and a number outside its range is refused. -/

namespace GatewayLink

open Toml

inductive SessionKey where
  | ackTimeout
  | maxRetries
  | inactivity
  | sweepInterval
  deriving DecidableEq

namespace SessionKey

def name : SessionKey → String
  | ackTimeout => "ack_timeout_ms"
  | maxRetries => "max_retries"
  | inactivity => "inactivity_timeout_secs"
  | sweepInterval => "sweep_interval_ms"

def largest : SessionKey → Int
  | maxRetries => 2 ^ 32 - 1
  | _ => 2 ^ 63 - 1

def number (p : Policy) : SessionKey → Nat
  | ackTimeout => p.ackTimeout.toNat
  | maxRetries => p.maxRetries.toNat
  | inactivity => p.inactivity.toNat
  | sweepInterval => p.sweepInterval.toNat

theorem policy_ext {p q : Policy} (same : ∀ k : SessionKey, k.number p = k.number q) : p = q := by
  obtain ⟨_, _, _, _⟩ := p
  obtain ⟨_, _, _, _⟩ := q
  have ack := same ackTimeout
  have retries := same maxRetries
  have silence := same inactivity
  have sweep := same sweepInterval
  simp only [number, UInt64.toNat_inj, UInt32.toNat_inj] at ack retries silence sweep
  rw [ack, retries, silence, sweep]

end SessionKey

/-- The numbers that are given are in the ranges of their keys. -/
def InRange (given : SessionKey → Option Int) : Prop := ∀ k, ∀ i ∈ given k, 0 ≤ i ∧ i ≤ k.largest

namespace Settings

/-- A document gives a field of a section a value, in a table or in an inline table. -/
inductive Gives (entries : List Entry) (name field : String) (v : Value) : Prop
  | key (assigned : ([name, field], v) ∈ assignments [] entries)
  | member {members : List (String × Value)} (assigned : ([name], .table members) ∈ assignments [] entries)
    (member : members.lookup field = some v)

/-- A document says nothing of a field of a section. -/
structure Lacks (entries : List Entry) (name field : String) : Prop where
  key : ∀ p ∈ paths [] entries, ¬[name, field] <+: p
  member : ∀ members, ([name], .table members) ∈ assignments [] entries → members.lookup field = none

/-- A document has no section but as a table. -/
structure HasTable (entries : List Entry) (name : String) : Prop where
  value : ∀ v, ([name], v) ∈ assignments [] entries → ∃ members, v = .table members
  single : [name] ∉ arrays entries

/-- A document that keeps the rules of TOML, with given texts and with numbers for some of the session keys. What
else it holds is free, apart from integers that are too large for TOML. -/
structure Declares (entries : List Entry) (bind level : String) (given : SessionKey → Option Int) : Prop where
  consistent : Outline.empty.Consistent entries
  tables : ∀ name ∈ ["udp", "session", "logging"], HasTable entries name
  bind : Gives entries "udp" "bind" (.text bind)
  level : Gives entries "logging" "level" (.text level)
  numbers : ∀ k i, given k = some i → Gives entries "session" k.name (.integer i)
  lacks : ∀ k, given k = none → Lacks entries "session" k.name
  others : ∀ p v, (p, v) ∈ assignments [] entries → p ≠ ["session"] →
    (∀ k : SessionKey, p ≠ ["session", k.name]) → v.Fits
  otherMembers : ∀ members key v, (["session"], .table members) ∈ assignments [] entries →
    members.lookup key = some v → (∀ k : SessionKey, key ≠ k.name) → v.Fits

section Numbers

variable {given : SessionKey → Option Int} {members : List (String × Value)}

/-- A form that takes the integers from 0 up to a bound as numbers, and no others of those that TOML has. -/
structure TakesUpTo {α : Type} (largest : Int) (number : α → Nat) (form : Value → Option α) : Prop where
  takes : ∀ i, 0 ≤ i → i ≤ largest → ∃ w, form (.integer i) = some w ∧ (number w : Int) = i
  refuses : ∀ i, FitsInt64 i → ¬(0 ≤ i ∧ i ≤ largest) → form (.integer i) = none

theorem word64?_takesUpTo : TakesUpTo (2 ^ 63 - 1) UInt64.toNat word64? := by
  constructor
  · intro i low high
    refine ⟨UInt64.ofNat i.toNat, if_pos ⟨low, by omega⟩, ?_⟩
    rw [UInt64.toNat_ofNat', Nat.mod_eq_of_lt (by omega)]
    exact Int.toNat_of_nonneg low
  · intro i fits out
    have := fits.2
    exact if_neg (by omega)

theorem word32?_takesUpTo : TakesUpTo (2 ^ 32 - 1) UInt32.toNat word32? := by
  constructor
  · intro i low high
    refine ⟨UInt32.ofNat i.toNat, if_pos ⟨low, by omega⟩, ?_⟩
    rw [UInt32.toNat_ofNat', Nat.mod_eq_of_lt (by omega)]
    exact Int.toNat_of_nonneg low
  · intro i _ out
    exact if_neg (by omega)

theorem TakesUpTo.field? {α : Type} {largest : Int} {number : α → Nat} {form : Value → Option α}
    (reads : TakesUpTo largest number form) (default : α) {given : Option Int}
    (range : ∀ i ∈ given, 0 ≤ i ∧ i ≤ largest) :
    ∃ w, Settings.field? form default (given.map .integer) = some w ∧
      (number w : Int) = given.getD (number default) := by
  cases given with
  | none => exact ⟨default, rfl, rfl⟩
  | some i => exact reads.takes i (range i rfl).1 (range i rfl).2

theorem policy?_members (looked : ∀ k : SessionKey, members.lookup k.name = (given k).map .integer)
    (range : InRange given) : ∃ p, policy? (.table members) = some p ∧
      ∀ k : SessionKey, (k.number p : Int) = (given k).getD (k.number .standard) := by
  obtain ⟨ackTimeout, readAck, ack⟩ := word64?_takesUpTo.field? Policy.standard.ackTimeout (range .ackTimeout)
  obtain ⟨maxRetries, readRetries, retries⟩ :=
    word32?_takesUpTo.field? Policy.standard.maxRetries (range .maxRetries)
  obtain ⟨inactivity, readInactivity, silence⟩ :=
    word64?_takesUpTo.field? Policy.standard.inactivity (range .inactivity)
  obtain ⟨sweepInterval, readSweep, sweep⟩ :=
    word64?_takesUpTo.field? Policy.standard.sweepInterval (range .sweepInterval)
  rw [← looked] at readAck readRetries readInactivity readSweep
  refine ⟨⟨ackTimeout, maxRetries, inactivity, sweepInterval⟩, ?_, fun k => ?_⟩
  · simp only [SessionKey.name] at readAck readRetries readInactivity readSweep
    simp [policy?, fields?, readAck, readRetries, readInactivity, readSweep]
  · cases k with
    | ackTimeout => exact ack
    | maxRetries => exact retries
    | inactivity => exact silence
    | sweepInterval => exact sweep

theorem policy?_out {k : SessionKey} {i : Int} (looked : members.lookup k.name = some (.integer i))
    (fits : FitsInt64 i) (out : ¬(0 ≤ i ∧ i ≤ k.largest)) : policy? (.table members) = none := by
  cases k with
  | maxRetries =>
    simp only [SessionKey.name] at looked
    have refused := word32?_takesUpTo.refuses i fits out
    simp [policy?, fields?, field?, looked, refused]
  | _ =>
    simp only [SessionKey.name] at looked
    have refused := word64?_takesUpTo.refuses i fits out
    simp [policy?, fields?, field?, looked, refused]

end Numbers

section Sections

variable {entries : List Entry} {name field : String}

theorem ne_nil_of_mem_arrays {p : Path} (member : p ∈ arrays entries) : p ≠ [] := by
  induction entries with
  | nil => exact absurd member List.not_mem_nil
  | cons entry entries ih =>
    rw [arrays_cons, List.mem_append] at member
    rcases member with now | later
    · cases entry with
      | arrayHeader path key =>
        obtain rfl := List.mem_singleton.mp now
        simp
      | _ => exact absurd now List.not_mem_nil
    · exact ih later

theorem HasTable.alone (hasTable : HasTable entries name) (field : String) : Alone entries [name, field] := by
  intro p member above
  rcases List.prefix_cons_iff.mp above with rfl | ⟨rest, rfl, below⟩
  · exact absurd rfl (ne_nil_of_mem_arrays member)
  · rcases List.prefix_cons_iff.mp below with rfl | ⟨others, rfl, last⟩
    · exact absurd member hasTable.single
    · rw [List.prefix_nil.mp last]

theorem alone_singleton (name : String) : Alone entries [name] := by
  intro p member above
  rcases List.prefix_cons_iff.mp above with rfl | ⟨rest, rfl, below⟩
  · exact absurd rfl (ne_nil_of_mem_arrays member)
  · rw [List.prefix_nil.mp below]

structure IsSection (entries : List Entry) (name : String) (members : List (String × Value)) : Prop where
  gives : ∀ field v, Gives entries name field v → members.lookup field = some v
  lacks : ∀ field, Lacks entries name field → members.lookup field = none

variable {tree : Branch} {v : Value}

theorem key_held (consistent : Outline.empty.Consistent entries)
    (marks : tree.mark? = (Outline.empty.run entries).mark) (hasTable : HasTable entries name)
    (assigned : ([name, field], v) ∈ assignments [] entries) :
    (tree.child false name).mark? [field] = some (.value v) := by
  rw [← Branch.mark?_cons false name tree (List.cons_ne_nil _ _), marks]
  exact consistent.assigned assigned (hasTable.alone field)

theorem key_free (marks : tree.mark? = (Outline.empty.run entries).mark) (lacks : Lacks entries name field) :
    (tree.child false name).get? field = none := by
  rw [Branch.get?_eq_none_iff, ← Branch.mark?_cons false name tree (List.cons_ne_nil _ _), marks]
  exact Outline.run_mark_eq_none rfl lacks.key

theorem value_held (consistent : Outline.empty.Consistent entries)
    (marks : tree.mark? = (Outline.empty.run entries).mark) (assigned : ([name], v) ∈ assignments [] entries) :
    (tree.get? name).map Node.mark = some (.value v) := by
  have held : tree.mark? [name] = some (.value v) := by
    rw [marks]
    exact consistent.assigned assigned (alone_singleton name)
  exact held

theorem HasTable.of_mark (hasTable : HasTable entries name) (marks : tree.mark? = (Outline.empty.run entries).mark)
    {m : Mark} (held : (tree.get? name).map Node.mark = some m) :
    (∃ members, m = .value (.table members) ∧ ([name], .table members) ∈ assignments [] entries) ∨
      ∃ implicit dotted, m = .table implicit dotted := by
  have inOutline : (Outline.empty.run entries).mark [name] = some m := by
    rw [← marks]
    exact held
  cases m with
  | value v =>
    have assigned := Outline.assigned_of_mark inOutline
    obtain ⟨members, rfl⟩ := hasTable.value v assigned
    exact .inl ⟨members, rfl, assigned⟩
  | table implicit dotted => exact .inr ⟨implicit, dotted, rfl⟩
  | tables => exact absurd (Outline.array_of_mark inOutline) hasTable.single

/-- A section is in the tables that a document describes, or no field of it is given. -/
theorem section_described (consistent : Outline.empty.Consistent entries) (hasTable : HasTable entries name)
    (marks : tree.mark? = (Outline.empty.run entries).mark) :
    (Entries.get? name (entryValues tree.entries) = none ∧ ∀ field v, ¬Gives entries name field v) ∨
      ∃ members, Entries.get? name (entryValues tree.entries) = some (.table members) ∧
        IsSection entries name members := by
  have key {field : String} {v : Value} (assigned : ([name, field], v) ∈ assignments [] entries) :=
    key_held consistent marks hasTable assigned
  have free {field : String} (lacks : Lacks entries name field) := key_free marks lacks
  have whole {v : Value} (assigned : ([name], v) ∈ assignments [] entries) := value_held consistent marks assigned
  have kind {m : Mark} (held : (tree.get? name).map Node.mark = some m) := hasTable.of_mark marks held
  have top : Entries.get? name (entryValues tree.entries) = (tree.get? name).map Node.toValue :=
    lookup_entryValues tree.entries name
  cases found : tree.get? name with
  | none =>
    rw [Branch.child, found] at key
    rw [found] at whole
    refine .inl ⟨by rw [top, found]; rfl, fun field v gives => ?_⟩
    rcases gives with assigned | assigned
    · cases key assigned
    · cases whole assigned
  | some n =>
    cases n with
    | value w =>
      rw [Branch.child, found] at key
      rw [found] at whole kind
      obtain ⟨members, same, assigned⟩ | ⟨_, _, same⟩ := kind rfl
      · obtain rfl := Mark.value.inj same
        refine .inr ⟨members, by rw [top, found]; rfl, ?_, fun field lacks => lacks.member members assigned⟩
        rintro field v (assigned | ⟨assigned, member⟩)
        · cases key assigned
        · obtain rfl := Value.table.inj (Mark.value.inj (Option.some.inj (whole assigned)))
          exact member
      · cases same
    | table implicit dotted nodes =>
      rw [Branch.child, found] at key free
      rw [found] at whole
      refine .inr ⟨entryValues nodes, by rw [top, found]; rfl, ?_, fun field lacks => ?_⟩
      · rintro field v (assigned | assigned)
        · obtain ⟨n, there, mark⟩ := Option.map_eq_some_iff.mp (key assigned)
          have here : nodes.lookup field = some n := there
          rw [lookup_entryValues, here, Option.map_some, Node.toValue_of_mark mark]
        · cases whole assigned
      · have here : nodes.lookup field = none := free lacks
        rw [lookup_entryValues, here, Option.map_none]
    | tables elements =>
      rw [found] at kind
      obtain ⟨_, same, -⟩ | ⟨_, _, same⟩ := kind rfl <;> cases elements <;> cases same

theorem Gives.unique (consistent : Outline.empty.Consistent entries) (hasTable : HasTable entries name) {v w : Value}
    (gives : Gives entries name field v) (also : Gives entries name field w) : v = w := by
  obtain ⟨tree, -, marks⟩ := entriesOf?_consistent consistent
  rcases section_described consistent hasTable marks with ⟨-, nothing⟩ | ⟨members, -, isSection⟩
  · exact absurd gives (nothing field v)
  · exact Option.some.inj ((isSection.gives field v gives).symm.trans (isSection.gives field w also))

theorem bind_text?_eq_some {v : Option Value} {s : String} : v.bind text? = some s ↔ v = some (.text s) := by
  match v with
  | none => simp
  | some (.text _) => simp [text?]
  | some (.integer _) | some (.float _) | some (.boolean _) | some (.moment _) | some (.array _) |
    some (.table _) => simp [text?]

theorem soleText?_table {members : List (String × Value)} {s : String} :
    soleText? field (.table members) = some s ↔ members.lookup field = some (.text s) := bind_text?_eq_some

theorem soleText?_tables (elements : List (List (String × Node))) (s : String) :
    soleText? field (Node.tables elements).toValue ≠ some s := by
  intro read
  have first := bind_text?_eq_some.mp read
  have member : Value.text s ∈ tableValues elements := List.mem_reverse.mp (List.mem_of_getElem? first)
  clear first read
  induction elements with
  | nil => exact List.not_mem_nil member
  | cons element elements ih =>
    rcases List.mem_cons.mp member with same | later
    · cases same
    · exact ih later

theorem gives_of_soleText? {s : String}
    (assigned : ∀ p v, tree.mark? p = some (.value v) → (p, v) ∈ assignments [] entries)
    (read : (Entries.get? name (entryValues tree.entries)).bind (soleText? field) = some s) :
    Gives entries name field (.text s) ∨
      ∃ items, ([name], .array items) ∈ assignments [] entries ∧ items[0]? = some (.text s) := by
  have top : Entries.get? name (entryValues tree.entries) = (tree.get? name).map Node.toValue :=
    lookup_entryValues tree.entries name
  rw [top] at read
  cases found : tree.get? name with
  | none =>
    rw [found] at read
    cases read
  | some n =>
    rw [found, Option.map_some, Option.bind_some] at read
    cases n with
    | value w =>
      have held : tree.mark? [name] = some (.value w) := by rw [Branch.mark?, found]; rfl
      rw [Node.toValue] at read
      cases w with
      | table members => exact .inl (.member (assigned _ _ held) (soleText?_table.mp read))
      | array items => exact .inr ⟨items, assigned _ _ held, bind_text?_eq_some.mp read⟩
      | _ => cases read
    | table implicit dotted nodes =>
      rw [Node.toValue, soleText?_table, lookup_entryValues, Option.map_eq_some_iff] at read
      obtain ⟨n, there, same⟩ := read
      obtain rfl := Node.eq_value same (by rintro _ ⟨⟩) (by rintro _ ⟨⟩)
      refine .inl (.key (assigned _ _ ?_))
      rw [Branch.mark?_cons false name tree (List.cons_ne_nil _ _), Branch.child, found]
      exact congrArg (Option.map Node.mark) there
    | tables elements => exact absurd read (soleText?_tables elements s)

end Sections

section Documents

variable {entries : List Entry} {document bind level : String} {given : SessionKey → Option Int}

theorem fits_of_assigned {current p : Path} {v : Value} (fits : ∀ entry ∈ entries, entry.Fits)
    (assigned : (p, v) ∈ assignments current entries) : v.Fits := by
  obtain ⟨path, key, inside⟩ := exists_of_mem_assignments assigned
  exact fits _ inside

theorem Gives.fits {name field : String} {v : Value} (fits : ∀ entry ∈ entries, entry.Fits)
    (gives : Gives entries name field v) : v.Fits := by
  rcases gives with assigned | ⟨assigned, member⟩
  · exact fits_of_assigned fits assigned
  · exact Value.fits_table.mp (fits_of_assigned fits assigned) _ _ member

theorem Declares.key_fits (declares : Declares entries bind level given) (range : InRange given) {k : SessionKey}
    {v : Value} (gives : Gives entries "session" k.name v) : v.Fits := by
  cases value : given k with
  | none =>
    have lacks := declares.lacks k value
    rcases gives with assigned | ⟨assigned, member⟩
    · exact absurd List.prefix_rfl (lacks.key _ (mem_paths_of_assigned assigned))
    · exact absurd ((lacks.member _ assigned).symm.trans member) nofun
  | some i =>
    have session := declares.tables "session" (by simp)
    obtain rfl := Gives.unique declares.consistent session gives (declares.numbers k i value)
    have := range k i value
    rw [Value.fits_integer]
    cases k <;> simp only [SessionKey.largest] at this <;> exact ⟨by omega, by omega⟩

theorem Declares.fits (declares : Declares entries bind level given) (range : InRange given) :
    ∀ entry ∈ entries, entry.Fits := by
  intro entry inside
  match entry with
  | .header _ _ | .arrayHeader _ _ => trivial
  | .assignment path key v =>
    obtain ⟨p, assigned⟩ := exists_mem_assignments inside []
    by_cases whole : p = ["session"]
    · subst whole
      obtain ⟨members, rfl⟩ := (declares.tables "session" (by simp)).value v assigned
      refine Value.fits_table.mpr fun name w member => ?_
      by_cases other : ∀ k : SessionKey, name ≠ k.name
      · exact declares.otherMembers members name w assigned member other
      · obtain ⟨k, rfl⟩ := not_forall_not.mp other
        exact declares.key_fits range (.member assigned member)
    · by_cases other : ∀ k : SessionKey, p ≠ ["session", k.name]
      · exact declares.others p v assigned whole other
      · obtain ⟨k, rfl⟩ := not_forall_not.mp other
        exact declares.key_fits range (.key assigned)

variable {tree : Branch}

theorem Gives.read {name field s : String} (gives : Gives entries name field (.text s))
    (consistent : Outline.empty.Consistent entries) (hasTable : HasTable entries name)
    (marks : tree.mark? = (Outline.empty.run entries).mark) :
    (Entries.get? name (entryValues tree.entries)).bind (soleText? field) = some s := by
  rcases section_described consistent hasTable marks with ⟨-, nothing⟩ | ⟨members, there, isSection⟩
  · exact absurd gives (nothing _ _)
  · rw [there, Option.bind_some, soleText?_table]
    exact isSection.gives field _ gives

theorem Declares.policy (declares : Declares entries bind level given)
    (marks : tree.mark? = (Outline.empty.run entries).mark) (range : InRange given) :
    ∃ p, field? policy? Policy.standard (Entries.get? "session" (entryValues tree.entries)) = some p ∧
      ∀ k : SessionKey, (k.number p : Int) = (given k).getD (k.number .standard) := by
  rcases section_described declares.consistent (declares.tables "session" (by simp)) marks with
    ⟨absent, nothing⟩ | ⟨members, there, isSection⟩
  · refine ⟨.standard, by rw [absent]; rfl, fun k => ?_⟩
    cases value : given k with
    | none => rfl
    | some i => exact absurd (declares.numbers k i value) (nothing _ _)
  · rw [there]
    refine policy?_members (fun k => ?_) range
    cases value : given k with
    | none => exact isSection.lacks _ (declares.lacks k value)
    | some i => exact isSection.gives _ _ (declares.numbers k i value)

theorem Declares.policy_out (declares : Declares entries bind level given)
    (marks : tree.mark? = (Outline.empty.run entries).mark) {k : SessionKey} {i : Int} (value : given k = some i)
    (fits : FitsInt64 i) (out : ¬(0 ≤ i ∧ i ≤ k.largest)) :
    field? policy? Policy.standard (Entries.get? "session" (entryValues tree.entries)) = none := by
  have gives := declares.numbers k i value
  rcases section_described declares.consistent (declares.tables "session" (by simp)) marks with
    ⟨-, nothing⟩ | ⟨members, there, isSection⟩
  · exact absurd gives (nothing _ _)
  · rw [there]
    exact policy?_out (isSection.gives _ _ gives) fits out

theorem parse_eq_ok (isDocument : IsDocument entries document) {settings : Settings}
    (accepted : parse document = .ok settings) :
    (∀ entry ∈ entries, entry.Fits) ∧ ∃ t, entriesOf? entries = some t ∧ ofEntries? t = some settings := by
  obtain ⟨taken, refused⟩ := parse?_document isDocument
  rw [parse] at accepted
  split at accepted
  · next found =>
    obtain rfl := Except.ok.inj accepted
    obtain ⟨t, read, settled⟩ := Option.bind_eq_some_iff.mp found
    have fits : ∀ entry ∈ entries, entry.Fits := by
      by_contra large
      rw [refused large] at read
      cases read
    rw [taken fits] at read
    exact ⟨fits, t, read, settled⟩
  · cases accepted

theorem parse_cases (document : String) :
    (∃ settings, parse document = .ok settings) ∨ parse document = .error .malformed := by
  rw [parse]
  split
  · exact .inl ⟨_, rfl⟩
  · exact .inr rfl

theorem Declares.accepted (declares : Declares entries bind level given) (isDocument : IsDocument entries document)
    (range : InRange given) :
    ∃ policy, parse document = .ok ⟨bind, level, policy⟩ ∧
      ∀ k : SessionKey, (k.number policy : Int) = (given k).getD (k.number .standard) := by
  obtain ⟨tree, described, marks⟩ := entriesOf?_consistent declares.consistent
  obtain ⟨policy, read, numbers⟩ := declares.policy marks range
  have udp := declares.bind.read declares.consistent (declares.tables "udp" (by simp)) marks
  have logging := declares.level.read declares.consistent (declares.tables "logging" (by simp)) marks
  refine ⟨policy, ?_, numbers⟩
  have parsed := (parse?_document isDocument).1 (declares.fits range)
  rw [parse, parsed, described, Option.bind_some, ofEntries?]
  simp only [udp, read, logging, Option.bind_eq_bind, Option.bind_some]
  rfl

theorem Declares.refused (declares : Declares entries bind level given) (isDocument : IsDocument entries document)
    (out : ¬InRange given) : parse document = .error .malformed := by
  refine (parse_cases document).resolve_left fun ⟨settings, accepted⟩ => ?_
  obtain ⟨fits, t, described, read⟩ := parse_eq_ok isDocument accepted
  obtain ⟨tree, same, marks⟩ := entriesOf?_consistent declares.consistent
  obtain rfl := Option.some.inj (described.symm.trans same)
  obtain ⟨k, i, value, beyond⟩ : ∃ k i, given k = some i ∧ ¬(0 ≤ i ∧ i ≤ k.largest) := by
    simpa [InRange] using out
  have small := Value.fits_integer.mp ((declares.numbers k i value).fits fits)
  have refused := declares.policy_out marks value small beyond
  rw [ofEntries?] at read
  simp [refused] at read

/-- A document gives the only field of a section no text, nor does an array in place of the section begin with one. -/
structure Omits (entries : List Entry) (name field : String) : Prop where
  gives : ∀ s, ¬Gives entries name field (.text s)
  array : ∀ items s, ([name], .array items) ∈ assignments [] entries → items[0]? ≠ some (.text s)

theorem parse_omitted (isDocument : IsDocument entries document)
    (omits : Omits entries "udp" "bind" ∨ Omits entries "logging" "level") : parse document = .error .malformed := by
  refine (parse_cases document).resolve_left fun ⟨settings, accepted⟩ => ?_
  obtain ⟨-, t, described, read⟩ := parse_eq_ok isDocument accepted
  obtain ⟨tree, rfl, assigned⟩ := entriesOf?_assigned described
  have given {name field s : String} (omits : Omits entries name field) :
      (Entries.get? name (entryValues tree.entries)).bind (soleText? field) ≠ some s := fun found =>
    (gives_of_soleText? assigned found).elim (omits.gives s) fun ⟨items, array, first⟩ =>
      omits.array items s array first
  simp only [ofEntries?, Option.bind_eq_bind, Option.bind_eq_some_iff] at read
  obtain ⟨bind, udp, _, -, level, logging, -⟩ := read
  exact omits.elim (given · (Option.bind_eq_some_iff.mpr udp)) (given · (Option.bind_eq_some_iff.mpr logging))

end Documents

section Sample

def sample (retries : Int) : List Entry :=
  [.header [] "session", .assignment [] "max_retries" (.integer retries), .header [] "relay",
    .assignment [] "on" (.boolean true), .header [] "logging", .assignment [] "level" (.text "debug"),
    .header [] "udp", .assignment [] "bind" (.text "0.0.0.0:1700")]

def sampleGiven (retries : Int) : SessionKey → Option Int
  | .maxRetries => some retries
  | _ => none

def sampleText (retries : List Char) : String :=
  .ofList ("# gateway\n[session]\nmax_retries = ".toList ++ (retries ++
    "\n[relay]\non = true\n[logging]\nlevel = 'debug' # all\n[udp]\nbind = \"0.0.0.0:1700\"".toList))

theorem sample_isDocument {retries : Int} {number : List Char} (integer : IsInteger retries number) :
    IsDocument (sample retries) (sampleText number) := by
  have bind : IsValue 0 (.text "0.0.0.0:1700") ('"' :: ("0.0.0.0:1700".toList ++ ['"'])) :=
    .text (.line (isLineText_plain .basic _ (by decide)))
  have level : IsValue 0 (.text "debug") ('\'' :: ("debug".toList ++ ['\''])) :=
    .text (.line (isLineText_plain .literal _ (by decide)))
  have lines := IsLines.value (by decide : IsBare "bind") bind (.last (w := []) nofun .none) .nil
  have lines := IsLines.header (by decide : IsBare "udp") lines
  have lines := IsLines.value (by decide : IsBare "level") level
    (.newline isWs_space (isComment_plain " all" (by decide)) .feed _) lines
  have lines := IsLines.header (by decide : IsBare "logging") lines
  have lines := IsLines.value (by decide : IsBare "on") (.word .yes) (.feed _) lines
  have lines := IsLines.header (by decide : IsBare "relay") lines
  have lines := IsLines.value (by decide : IsBare "max_retries") (.integer integer) (.feed _) lines
  have lines := IsLines.header (by decide : IsBare "session") lines
  have lines := IsLines.blank (.newline (w := []) nofun (isComment_plain " gateway" (by decide)) .feed _) lines
  have text : (sampleText number).toList = _ := String.toList_ofList
  refine .inl ?_
  rw [text]
  simpa [sample] using lines

theorem sample_declares (retries : Int) :
    Declares (sample retries) "0.0.0.0:1700" "debug" (sampleGiven retries) where
  consistent := by
    simp [sample, Outline.Consistent, Outline.Allows, Outline.after, Outline.way, Outline.empty]
  tables name member := by
    constructor
    · simp [sample, assignments, Entry.enters]
    · simp [sample, arrays]
  bind := .key (by simp [sample, assignments, Entry.enters])
  level := .key (by simp [sample, assignments, Entry.enters])
  numbers k i value := by
    cases k <;> cases value
    exact .key (by simp [sample, assignments, Entry.enters, SessionKey.name])
  lacks k value := by
    constructor
    · cases k with
      | maxRetries => cases value
      | _ => simp [sample, paths, Entry.enters, Entry.path, SessionKey.name]
    · simp [sample, assignments, Entry.enters]
  others p v assigned _ other := by
    simp only [sample, assignments, Entry.enters, List.nil_append, List.mem_cons, List.not_mem_nil, or_false,
      Prod.mk.injEq] at assigned
    rcases assigned with ⟨here, -⟩ | ⟨-, rfl⟩ | ⟨-, rfl⟩ | ⟨-, rfl⟩
    · exact absurd here (other .maxRetries)
    all_goals rintro _ ⟨⟩
  otherMembers members key v assigned := by simp [sample, assignments, Entry.enters] at assigned

end Sample

section Documents

variable {entries : List Entry} {document bind level : String} {given : SessionKey → Option Int}

/-- A document that declares settings is read to them if its numbers are in range, each session key by itself, and is
refused otherwise. So is a document without the address or without the log level. -/
theorem parse_document (isDocument : IsDocument entries document) :
    (∀ bind level given, Declares entries bind level given →
      (InRange given → ∃ policy, parse document = .ok ⟨bind, level, policy⟩ ∧
        ∀ k : SessionKey, (k.number policy : Int) = (given k).getD (k.number .standard)) ∧
      (¬InRange given → parse document = .error .malformed)) ∧
      (Omits entries "udp" "bind" ∨ Omits entries "logging" "level" → parse document = .error .malformed) :=
  ⟨fun _ _ _ declares => ⟨declares.accepted isDocument, declares.refused isDocument⟩, parse_omitted isDocument⟩

theorem parse_document_sample :
    parse (sampleText "0x1F".toList) = .ok ⟨"0.0.0.0:1700", "debug", ⟨2000, 31, 60, 500⟩⟩ ∧
      parse (sampleText "0x1_0000_0000".toList) = .error .malformed ∧
      parse "[logging]\nlevel = 'debug'\n" = .error .malformed := by
  refine ⟨?_, ?_, ?_⟩
  · have few : IsInteger 31 "0x1F".toList :=
      .based .hexadecimal (.next (by decide : isDigitIn 16 '1' = true) (.single (by decide : isDigitIn 16 'F' = true)))
    have range : InRange (sampleGiven 31) := by
      intro k i value
      cases k <;> cases value
      decide
    obtain ⟨policy, accepted, numbers⟩ :=
      ((parse_document (sample_isDocument few)).1 _ _ _ (sample_declares 31)).1 range
    have same : policy = ⟨2000, 31, 60, 500⟩ := SessionKey.policy_ext fun k => by
      have number := numbers k
      cases k <;> exact Int.ofNat.inj number
    rw [accepted, same]
  · have zero : isDigitIn 16 '0' = true := by decide
    have many : IsInteger 0x100000000 "0x1_0000_0000".toList :=
      .based .hexadecimal (.parted (by decide : isDigitIn 16 '1' = true)
        (.next zero (.next zero (.next zero (.parted zero
          (.next zero (.next zero (.next zero (.single zero)))))))))
    have declares := sample_declares 0x100000000
    refine ((parse_document (sample_isDocument many)).1 _ _ _ declares).2 fun range => ?_
    exact absurd (range .maxRetries _ rfl).2 (by decide)
  · have level : IsValue 0 (.text "debug") ('\'' :: ("debug".toList ++ ['\''])) :=
      .text (.line (isLineText_plain .literal _ (by decide)))
    have lines := IsLines.value (by decide : IsBare "level") level (.feed []) .nil
    have lines := IsLines.header (by decide : IsBare "logging") lines
    have isDocument : IsDocument _ "[logging]\nlevel = 'debug'\n" := .inl (by simpa using lines)
    refine (parse_document isDocument).2 (.inl ⟨?_, ?_⟩)
    · rintro s (assigned | ⟨assigned, -⟩) <;> simp [assignments, Entry.enters] at assigned
    · intro items s
      simp [assignments, Entry.enters]

example : parse "udp.bind = ':1'\nlogging.level = ''\nsession = \x7b max_retries = 0x1_0000_0000_0000_0000 \x7d" =
    .error .malformed := by decide +kernel

/-- A section may also be an array of the values of its fields, in order. -/
theorem parse_arrays :
    ∃ entries, IsDocument entries "udp = ['0.0.0.0:1700']\nlogging = ['info']\n" ∧
      Outline.empty.Consistent entries ∧ (∀ v, ¬Gives entries "udp" "bind" v) ∧
      (∀ v, ¬Gives entries "logging" "level" v) ∧
      parse "udp = ['0.0.0.0:1700']\nlogging = ['info']\n" = .ok ⟨"0.0.0.0:1700", "info", .standard⟩ := by
  have array (s : String) (plain : s.toList.all (fun c => isPlain c && c != '\'' && c != '\\') = true) :
      IsValue 0 (.array [.text s]) ('[' :: '\'' :: (s.toList ++ ['\'', ']'])) := by
    have item : IsValue 1 (.text s) ('\'' :: (s.toList ++ ['\''])) := .text (.line (isLineText_plain .literal s plain))
    have items := IsItems.last .nil item .nil
    simpa using IsValue.array (by decide) items
  have lines := IsLines.value (by decide : IsBare "logging") (array "info" (by decide)) (.feed []) .nil
  have lines := IsLines.value (by decide : IsBare "udp") (array "0.0.0.0:1700" (by decide)) (.feed _) lines
  refine ⟨_, .inl (by simpa using lines), ?_, ?_, ?_, by decide +kernel⟩
  · simp [Outline.Consistent, Outline.Allows, Outline.after, Outline.way, Outline.empty]
  · rintro v (assigned | ⟨assigned, -⟩) <;> simp [assignments] at assigned
  · rintro v (assigned | ⟨assigned, -⟩) <;> simp [assignments] at assigned

end Documents

end Settings

end GatewayLink
