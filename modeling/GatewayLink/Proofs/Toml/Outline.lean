import Mathlib.Data.List.Basic
import GatewayLink.Toml.Tree

/-! The rules of TOML for the tables of a document, told path by path.
An outline says of each path what it holds so far. `Outline.Allows` has the rules for the next entry and
`Outline.after` what it brings about; neither knows of a tree. -/

namespace GatewayLink.Toml

inductive Mark where
  | value (v : Value)
  | table (implicit dotted : Bool)
  | tables

namespace Mark

@[match_pattern] abbrev opened : Mark := .table false false

@[match_pattern] abbrev passed : Mark := .table true false

@[match_pattern] abbrev dotted : Mark := .table true true

end Mark

namespace Entry

def path (current : Path) : Entry → Path
  | .header path key => path ++ [key]
  | .arrayHeader path key => path ++ [key]
  | .assignment path key _ => current ++ (path ++ [key])

def enters (current : Path) : Entry → Path
  | .header path key => path ++ [key]
  | .arrayHeader path key => path ++ [key]
  | .assignment _ _ _ => current

def mark : Entry → Mark
  | .header _ _ => .opened
  | .arrayHeader _ _ => .tables
  | .assignment _ _ v => .value v

end Entry

def paths : (current : Path) → List Entry → List Path
  | _, [] => []
  | current, entry :: entries => entry.path current :: paths (entry.enters current) entries

def assignments : (current : Path) → List Entry → List (Path × Value)
  | _, [] => []
  | current, .assignment path key v :: entries =>
    (current ++ (path ++ [key]), v) :: assignments current entries
  | current, entry :: entries => assignments (entry.enters current) entries

def arrays : List Entry → List Path
  | [] => []
  | .arrayHeader path key :: entries => (path ++ [key]) :: arrays entries
  | _ :: entries => arrays entries

theorem assignments_cons (current : Path) (entry : Entry) (entries : List Entry) :
    assignments current (entry :: entries) =
      assignments current [entry] ++ assignments (entry.enters current) entries := by
  cases entry <;> rfl

theorem arrays_cons (entry : Entry) (entries : List Entry) :
    arrays (entry :: entries) = arrays [entry] ++ arrays entries := by
  cases entry <;> rfl

/-- No array of tables begins anew around a path. -/
def Alone (entries : List Entry) (p : Path) : Prop := ∀ q ∈ arrays entries, q <+: p → q = p

/-- What the paths of a document hold so far, and the table that assignments go to. In an array of tables the
latest one is meant. -/
structure Outline where
  mark : Path → Option Mark
  current : Path

namespace Outline

def empty : Outline := ⟨fun _ => none, []⟩

/-- A header leads through anything but values. -/
def Leads (o : Outline) (path : Path) : Prop :=
  ∀ p, p ≠ [] → p <+: path → ∀ v, o.mark p ≠ some (.value v)

/-- Dotted keys lead through tables of their own kind only. -/
def Extends (o : Outline) (path : Path) : Prop :=
  ∀ p, p ≠ [] → p <+: path → o.mark (o.current ++ p) = none ∨ o.mark (o.current ++ p) = some .dotted

@[simp]
theorem leads_nil (o : Outline) : o.Leads [] := fun _ nonempty on => absurd (List.prefix_nil.mp on) nonempty

@[simp]
theorem extends_nil (o : Outline) : o.Extends [] := fun _ nonempty on => absurd (List.prefix_nil.mp on) nonempty

/-- A table is opened once, also if it was passed before, an array of tables grows, and a value is assigned
where nothing is. -/
def Allows (o : Outline) : Entry → Prop
  | .header path key =>
    o.Leads path ∧ (o.mark (path ++ [key]) = none ∨ o.mark (path ++ [key]) = some .passed)
  | .arrayHeader path key =>
    o.Leads path ∧ (o.mark (path ++ [key]) = none ∨ o.mark (path ++ [key]) = some .tables)
  | .assignment path key _ => o.Extends path ∧ o.mark (o.current ++ (path ++ [key])) = none

/-- The marks once missing tables on the way to a path are made. -/
def way (mark : Path → Option Mark) (made : Mark) (path p : Path) : Option Mark :=
  match mark p with
  | some m => some m
  | none => if p ≠ [] ∧ p <+: path then some made else none

/-- The next table of an array begins empty. -/
def after (o : Outline) : Entry → Outline
  | .header path key =>
    ⟨fun p => if p = path ++ [key] then some .opened else way o.mark .passed path p, path ++ [key]⟩
  | .arrayHeader path key =>
    ⟨fun p =>
      if p = path ++ [key] then some .tables
      else if path ++ [key] <+: p then none
      else way o.mark .passed path p, path ++ [key]⟩
  | .assignment path key v =>
    ⟨fun p =>
      if p = o.current ++ (path ++ [key]) then some (.value v) else way o.mark .dotted (o.current ++ path) p,
      o.current⟩

/-- Each entry keeps the rules where it stands. -/
def Consistent : Outline → List Entry → Prop
  | _, [] => True
  | o, entry :: entries => o.Allows entry ∧ (o.after entry).Consistent entries

def run (o : Outline) (entries : List Entry) : Outline := entries.foldl after o

variable {o : Outline} {entry : Entry} {entries : List Entry} {mark : Path → Option Mark} {made : Mark}
  {path p : Path} {v : Value}

theorem after_current (o : Outline) (entry : Entry) : (o.after entry).current = entry.enters o.current := by
  cases entry <;> rfl

theorem way_of_some {m : Mark} (held : mark p = some m) : way mark made path p = some m := by
  rw [way, held]

theorem way_aside (aside : ¬p <+: path) : way mark made path p = mark p := by
  rw [way]
  cases mark p with
  | none => exact if_neg fun on => aside on.2
  | some m => rfl

theorem way_eq_some {m : Mark} (held : way mark made path p = some m) : mark p = some m ∨ m = made := by
  rw [way] at held
  split at held
  · next same => exact .inl (same.trans held)
  · split at held
    · exact .inr (Option.some.inj held).symm
    · cases held

theorem way_eq_value {implicit dotted : Bool}
    (held : way mark (.table implicit dotted) path p = some (.value v)) : mark p = some (.value v) := by
  rcases way_eq_some held with same | made
  · exact same
  · cases made

theorem after_assignment_of_prefix {key : String} {m : Mark} (held : o.mark p = some m) (on : p <+: o.current) :
    (o.after (.assignment path key v)).mark p = some m := by
  have other : p ≠ o.current ++ (path ++ [key]) := by
    rintro rfl
    have := on.length_le
    simp only [List.length_append, List.length_singleton] at this
    omega
  exact (if_neg other).trans (way_of_some held)

theorem after_assignment_outside {key : String} (root : o.mark [] = none)
    (stands : ∀ p, p ≠ [] → p <+: o.current → ∃ m, o.mark p = some m) (outside : o.current <+: p → p <+: o.current) :
    (o.after (.assignment path key v)).mark p = way o.mark made o.current p := by
  by_cases on : p <+: o.current
  · by_cases isNil : p = []
    · subst isNil
      simp [way, after, root]
    · obtain ⟨m, held⟩ := stands p isNil on
      rw [way_of_some held, after_assignment_of_prefix held on]
  · have apart : ¬o.current <+: p := fun above => on (outside above)
    have off : ¬p <+: o.current ++ path := fun above =>
      (List.prefix_or_prefix_of_prefix above (List.prefix_append _ _)).elim on apart
    have other : p ≠ o.current ++ (path ++ [key]) := by
      rintro rfl
      exact apart (List.prefix_append _ _)
    rw [way_aside on]
    exact (if_neg other).trans (way_aside off)

theorem Allows.keeps (allows : o.Allows entry) (held : o.mark p = some (.value v))
    (alone : Alone [entry] p) : (o.after entry).mark p = some (.value v) := by
  cases entry with
  | header path key =>
    have other : p ≠ path ++ [key] := by
      rintro rfl
      rcases allows.2 with free | passed
      · exact absurd (held.symm.trans free) nofun
      · exact absurd (held.symm.trans passed) nofun
    exact (if_neg other).trans (way_of_some held)
  | arrayHeader path key =>
    have other : p ≠ path ++ [key] := by
      rintro rfl
      rcases allows.2 with free | tables
      · exact absurd (held.symm.trans free) nofun
      · exact absurd (held.symm.trans tables) nofun
    have aside : ¬path ++ [key] <+: p := fun above => other (alone _ List.mem_cons_self above).symm
    exact (if_neg other).trans ((if_neg aside).trans (way_of_some held))
  | assignment path key w =>
    have other : p ≠ o.current ++ (path ++ [key]) := by
      rintro rfl
      exact absurd (held.symm.trans allows.2) nofun
    exact (if_neg other).trans (way_of_some held)

theorem after_mark_eq_none (free : o.mark p = none) (aside : ¬p <+: entry.path o.current) :
    (o.after entry).mark p = none := by
  have beyond {start rest : Path} (far : ¬p <+: start ++ rest) : ¬p <+: start := fun near =>
    far (near.trans (List.prefix_append start rest))
  have other {q : Path} (far : ¬p <+: q) : p ≠ q := by
    rintro rfl
    exact far List.prefix_rfl
  cases entry with
  | header path key =>
    exact (if_neg (other aside)).trans ((way_aside (beyond aside)).trans free)
  | arrayHeader path key =>
    refine (if_neg (other aside)).trans ?_
    split
    · rfl
    · exact (way_aside (beyond aside)).trans free
  | assignment path key w =>
    rw [Entry.path, ← List.append_assoc] at aside
    have same : o.current ++ (path ++ [key]) = o.current ++ path ++ [key] := by simp
    refine (if_neg ?_).trans ((way_aside (beyond aside)).trans free)
    rw [same]
    exact other aside

theorem after_mark_eq_some {m : Mark} (held : (o.after entry).mark p = some m) :
    o.mark p = some m ∨ (p = entry.path o.current ∧ m = entry.mark) ∨ m = .passed ∨ m = .dotted := by
  cases entry with
  | header path key =>
    simp only [after] at held
    split at held
    · next here => exact .inr (.inl ⟨here, (Option.some.inj held).symm⟩)
    · exact (way_eq_some held).imp_right fun made => .inr (.inl made)
  | arrayHeader path key =>
    simp only [after] at held
    split at held
    · next here => exact .inr (.inl ⟨here, (Option.some.inj held).symm⟩)
    · split at held
      · cases held
      · exact (way_eq_some held).imp_right fun made => .inr (.inl made)
  | assignment path key w =>
    simp only [after] at held
    split at held
    · next here => exact .inr (.inl ⟨here, (Option.some.inj held).symm⟩)
    · exact (way_eq_some held).imp_right fun made => .inr (.inr made)

theorem after_mark_eq_value (held : (o.after entry).mark p = some (.value v)) :
    o.mark p = some (.value v) ∨ (p, v) ∈ assignments o.current [entry] := by
  rcases after_mark_eq_some held with same | ⟨here, own⟩ | made | made
  · exact .inl same
  · refine .inr ?_
    cases entry with
    | assignment path key w =>
      obtain rfl := Mark.value.inj own
      simp [assignments, here, Entry.path]
    | _ => cases own
  · cases made
  · cases made

theorem after_mark_eq_tables (held : (o.after entry).mark p = some .tables) :
    o.mark p = some .tables ∨ p ∈ arrays [entry] := by
  rcases after_mark_eq_some held with same | ⟨here, own⟩ | made | made
  · exact .inl same
  · refine .inr ?_
    cases entry with
    | arrayHeader path key => simp [arrays, here, Entry.path]
    | _ => cases own
  · cases made
  · cases made

theorem Consistent.keeps (consistent : o.Consistent entries) (held : o.mark p = some (.value v))
    (alone : Alone entries p) : (o.run entries).mark p = some (.value v) := by
  induction entries generalizing o with
  | nil => exact held
  | cons entry entries ih =>
    rw [Alone, arrays_cons] at alone
    have kept := consistent.1.keeps held fun q member => alone q (List.mem_append_left _ member)
    exact ih consistent.2 kept fun q member => alone q (List.mem_append_right _ member)

/-- What is assigned to a path is there in the end. -/
theorem Consistent.assigned (consistent : o.Consistent entries)
    (assigned : (p, v) ∈ assignments o.current entries) (alone : Alone entries p) :
    (o.run entries).mark p = some (.value v) := by
  induction entries generalizing o with
  | nil => exact absurd assigned List.not_mem_nil
  | cons entry entries ih =>
    rw [assignments_cons, List.mem_append] at assigned
    rw [Alone, arrays_cons] at alone
    have later : Alone entries p := fun q member => alone q (List.mem_append_right _ member)
    rcases assigned with now | rest
    · have held : (o.after entry).mark p = some (.value v) := by
        cases entry with
        | assignment path key w =>
          obtain ⟨rfl, rfl⟩ := Prod.mk.inj (List.mem_singleton.mp now)
          exact if_pos rfl
        | _ => exact absurd now List.not_mem_nil
      exact consistent.2.keeps held later
    · rw [← after_current] at rest
      exact ih consistent.2 rest later

theorem run_mark_eq_value (held : (o.run entries).mark p = some (.value v)) :
    o.mark p = some (.value v) ∨ (p, v) ∈ assignments o.current entries := by
  induction entries generalizing o with
  | nil => exact .inl held
  | cons entry entries ih =>
    rw [assignments_cons, List.mem_append, ← after_current]
    rcases ih held with before | rest
    · exact (after_mark_eq_value before).imp_right .inl
    · exact .inr (.inr rest)

theorem run_mark_eq_tables (held : (o.run entries).mark p = some .tables) :
    o.mark p = some .tables ∨ p ∈ arrays entries := by
  induction entries generalizing o with
  | nil => exact .inl held
  | cons entry entries ih =>
    rw [arrays_cons, List.mem_append]
    rcases ih held with before | rest
    · exact (after_mark_eq_tables before).imp_right .inl
    · exact .inr (.inr rest)

theorem run_mark_eq_none (free : o.mark p = none) (aside : ∀ q ∈ paths o.current entries, ¬p <+: q) :
    (o.run entries).mark p = none := by
  induction entries generalizing o with
  | nil => exact free
  | cons entry entries ih =>
    refine ih (after_mark_eq_none free (aside _ List.mem_cons_self)) fun q member => ?_
    rw [after_current] at member
    exact aside q (List.mem_cons_of_mem _ member)

theorem assigned_of_mark (held : (empty.run entries).mark p = some (.value v)) :
    (p, v) ∈ assignments [] entries := by
  rcases run_mark_eq_value held with before | assigned
  · cases before
  · exact assigned

theorem array_of_mark (held : (empty.run entries).mark p = some .tables) : p ∈ arrays entries := by
  rcases run_mark_eq_tables held with before | array
  · cases before
  · exact array

end Outline

end GatewayLink.Toml
