import Mathlib.Data.List.Forall2
import GatewayLink.Body.Basic
import GatewayLink.Proofs.Body.Reading

/-! The two stages of reading.
Before anything is converted, all members must have the form that a table of fields gives them. Then the
conversions are tried in order, and the first that fails is the one that is reported. Combining readings joins
the conditions of the first stage and the lists of faults of the second. -/

namespace GatewayLink

/-- The fault of the first conversion that fails; each conversion is given by the faults it can have. -/
inductive FirstOf : List (Fault → Prop) → Fault → Prop
  | here {fault : Fault} {fails : Fault → Prop} {later : List (Fault → Prop)} (failed : fails fault) :
    FirstOf (fails :: later) fault
  | later {fault : Fault} {fails : Fault → Prop} {later : List (Fault → Prop)}
    (succeeds : ∀ other, ¬fails other) (failed : FirstOf later fault) : FirstOf (fails :: later) fault

namespace FirstOf

variable {first second : List (Fault → Prop)} {fails : Fault → Prop} {fault : Fault}

theorem nil : ¬FirstOf [] fault := nofun

theorem cons : FirstOf (fails :: second) fault ↔
    fails fault ∨ (∀ other, ¬fails other) ∧ FirstOf second fault := by
  constructor
  · rintro (failed | ⟨succeeds, failed⟩)
    · exact .inl failed
    · exact .inr ⟨succeeds, failed⟩
  · rintro (failed | ⟨succeeds, failed⟩)
    · exact .here failed
    · exact .later succeeds failed

theorem single : FirstOf [fails] fault ↔ fails fault := by
  rw [cons]
  simp [nil]

theorem exists_mem (failed : FirstOf first fault) : ∃ fails ∈ first, fails fault := by
  induction failed with
  | here failed => exact ⟨_, List.mem_cons_self, failed⟩
  | later _ _ ih =>
    obtain ⟨fails, member, failed⟩ := ih
    exact ⟨fails, List.mem_cons_of_mem _ member, failed⟩

theorem none_iff : (∀ fault, ¬FirstOf first fault) ↔ ∀ fails ∈ first, ∀ fault, ¬fails fault := by
  constructor
  · intro noFault
    induction first with
    | nil => exact nofun
    | cons fails later ih =>
      have succeeds (other : Fault) (failed : fails other) : False := noFault other (.here failed)
      exact List.forall_mem_cons.mpr
        ⟨succeeds, ih fun fault failed => noFault fault (.later succeeds failed)⟩
  · intro succeed fault failed
    obtain ⟨fails, member, failed⟩ := failed.exists_mem
    exact succeed fails member fault failed

theorem append : FirstOf (first ++ second) fault ↔
    FirstOf first fault ∨ (∀ other, ¬FirstOf first other) ∧ FirstOf second fault := by
  induction first with
  | nil => simp [nil]
  | cons fails later ih =>
    simp only [List.cons_append, cons, ih, not_or, not_and, forall_and]
    constructor
    · rintro (failed | ⟨succeeds, failed | ⟨noFault, failed⟩⟩)
      · exact .inl (.inl failed)
      · exact .inl (.inr ⟨succeeds, failed⟩)
      · exact .inr ⟨⟨succeeds, fun fault _ => noFault fault⟩, failed⟩
    · rintro ((failed | ⟨succeeds, failed⟩) | ⟨⟨succeeds, noFault⟩, failed⟩)
      · exact .inl failed
      · exact .inr ⟨succeeds, .inl failed⟩
      · exact .inr ⟨succeeds, .inr ⟨fun fault => noFault fault succeeds, failed⟩⟩

end FirstOf

namespace Reading

variable {α β : Type}

/-- The first stage succeeds: the members have their form. -/
def HasForm (x : Reading α) : Prop := ∃ outcome, (show Option (Except Fault α) from x) = some outcome

/-- The second stage fails. -/
def Fails (x : Reading α) (fault : Fault) : Prop :=
  (show Option (Except Fault α) from x) = some (.error fault)

theorem Fails.hasForm {x : Reading α} {fault : Fault} (failed : x.Fails fault) : x.HasForm :=
  ⟨_, failed⟩

theorem Gives.hasForm {x : Reading α} {a : α} (given : x.Gives a) : x.HasForm := ⟨_, given⟩

theorem Gives.not_fails {x : Reading α} {a : α} (given : x.Gives a) (fault : Fault) :
    ¬x.Fails fault := by
  intro failed
  cases given.symm.trans failed

theorem HasForm.cases {x : Reading α} (form : x.HasForm) :
    (∃ a, x.Gives a) ∨ ∃ fault, x.Fails fault := by
  obtain ⟨outcome, known⟩ := form
  cases outcome with
  | ok a => exact .inl ⟨a, known⟩
  | error fault => exact .inr ⟨fault, known⟩

theorem result_eq_error {x : Reading α} {fault : Fault} :
    x.result = .error fault ↔ ¬x.HasForm ∧ fault = .body .form ∨ x.Fails fault := by
  match x with
  | none => simp [result, HasForm, Fails, eq_comm]
  | some outcome => simp [result, HasForm, Fails]

theorem hasForm_pure (a : α) : (pure a : Reading α).HasForm := ⟨.ok a, rfl⟩

theorem not_fails_pure (a : α) (fault : Fault) : ¬(pure a : Reading α).Fails fault := nofun

theorem hasForm_plain {form : Option α} : (plain form).HasForm ↔ form.isSome = true := by
  cases form <;> simp [HasForm, plain]

theorem not_fails_plain (form : Option α) (fault : Fault) : ¬(plain form).Fails fault := by
  cases form <;> simp [Fails, plain]

theorem hasForm_convert {form : Option α} {conversion : α → Except Fault β} :
    (convert form conversion).HasForm ↔ form.isSome = true := by
  cases form <;> simp [HasForm, convert]

theorem fails_convert {form : Option α} {conversion : α → Except Fault β} {fault : Fault} :
    (convert form conversion).Fails fault ↔ ∃ a, form = some a ∧ conversion a = .error fault := by
  cases form <;> simp [Fails, convert]

theorem hasForm_map {f : α → β} {x : Reading α} : (f <$> x).HasForm ↔ x.HasForm := by
  match x with
  | none => simp [HasForm, Functor.map, Reading.map]
  | some outcome => simp [HasForm, Functor.map, Reading.map]

theorem fails_map {f : α → β} {x : Reading α} {fault : Fault} :
    (f <$> x).Fails fault ↔ x.Fails fault := by
  match x with
  | none => simp [Fails, Functor.map, Reading.map]
  | some (.error fault) => simp [Fails, Functor.map, Reading.map, Except.map]
  | some (.ok a) => simp [Fails, Functor.map, Reading.map, Except.map]

theorem hasForm_seq {f : Reading (α → β)} {x : Reading α} :
    (f <*> x).HasForm ↔ f.HasForm ∧ x.HasForm := by
  match f, x with
  | none, _ => simp [HasForm, Seq.seq, combine]
  | some _, none => simp [HasForm, Seq.seq, combine]
  | some _, some _ => simp [HasForm, Seq.seq, combine]

theorem fails_seq {f : Reading (α → β)} {x : Reading α} {fault : Fault} :
    (f <*> x).Fails fault ↔
      f.Fails fault ∧ x.HasForm ∨ (∃ g, f.Gives g) ∧ x.Fails fault := by
  match f, x with
  | none, _ => simp [Fails, Gives, Seq.seq, combine]
  | some (.error e), none => simp [Fails, HasForm, Gives, Seq.seq, combine]
  | some (.error e), some y => simp [Fails, HasForm, Gives, Seq.seq, combine, Except.bind]
  | some (.ok g), none => simp [Fails, Seq.seq, combine]
  | some (.ok g), some (.error e) =>
    simp [Fails, Gives, Seq.seq, combine, Except.bind, Except.map]
  | some (.ok g), some (.ok a) => simp [Fails, Seq.seq, combine, Except.bind, Except.map]

/-- A reading told by the condition of its first stage and the conversions of its second. -/
structure Reads (x : Reading α) (formed : Prop) (conversions : List (Fault → Prop)) : Prop where
  hasForm : x.HasForm ↔ formed
  fails : x.HasForm → ∀ fault, x.Fails fault ↔ FirstOf conversions fault

namespace Reads

variable {f : Reading (α → β)} {x : Reading α} {formed formed' : Prop}
  {conversions conversions' : List (Fault → Prop)}

theorem exists_gives (known : Reads x formed conversions) :
    (∃ a, x.Gives a) ↔ formed ∧ ∀ fails ∈ conversions, ∀ fault, ¬fails fault := by
  rw [← FirstOf.none_iff, ← known.hasForm]
  constructor
  · rintro ⟨a, given⟩
    refine ⟨given.hasForm, fun fault failed => ?_⟩
    exact given.not_fails fault ((known.fails given.hasForm fault).mpr failed)
  · rintro ⟨form, noFault⟩
    rcases form.cases with given | ⟨fault, failed⟩
    · exact given
    · exact absurd ((known.fails form fault).mp failed) (noFault fault)

theorem congr (known : Reads x formed conversions) (same : formed ↔ formed') :
    Reads x formed' conversions :=
  ⟨known.hasForm.trans same, known.fails⟩

theorem pure (a : α) : Reads (Pure.pure a) True [] :=
  ⟨iff_of_true (hasForm_pure a) trivial, fun _ fault => iff_of_false (not_fails_pure a fault) nofun⟩

theorem plain (form : Option α) : Reads (Reading.plain form) (form.isSome = true) [] :=
  ⟨hasForm_plain, fun _ fault => iff_of_false (not_fails_plain form fault) nofun⟩

theorem convert (form : Option α) (conversion : α → Except Fault β) :
    Reads (Reading.convert form conversion) (form.isSome = true)
      [fun fault => ∃ a, form = some a ∧ conversion a = .error fault] :=
  ⟨hasForm_convert, fun _ _ => by rw [FirstOf.single, fails_convert]⟩

theorem map (known : Reads x formed conversions) (g : α → β) :
    Reads (g <$> x) formed conversions :=
  ⟨hasForm_map.trans known.hasForm,
    fun form fault => fails_map.trans (known.fails (hasForm_map.mp form) fault)⟩

theorem seq (first : Reads f formed conversions) (second : Reads x formed' conversions') :
    Reads (f <*> x) (formed ∧ formed') (conversions ++ conversions') := by
  refine ⟨hasForm_seq.trans (and_congr first.hasForm second.hasForm), fun form fault => ?_⟩
  obtain ⟨formFirst, formSecond⟩ := hasForm_seq.mp form
  have gives : (∃ g, f.Gives g) ↔ ∀ other, ¬FirstOf conversions other := by
    rw [first.exists_gives, FirstOf.none_iff]
    exact and_iff_right (first.hasForm.mp formFirst)
  rw [fails_seq, FirstOf.append, ← first.fails formFirst, ← second.fails formSecond, gives]
  exact or_congr (and_iff_left formSecond) Iff.rfl

theorem forEach {read : α → Reading β} {formed : α → Prop} {fails : α → Fault → Prop}
    (known : ∀ a, Reads (read a) (formed a) [fails a]) (items : List α) :
    Reads (Reading.forEach read items) (∀ a ∈ items, formed a) (items.map fails) := by
  induction items with
  | nil => exact (Reads.pure []).congr (by simp)
  | cons a rest ih => exact (((known a).map List.cons).seq ih).congr (by simp)

end Reads

theorem gives_forEach_iff {read : α → Reading β} {items : List α} {bs : List β} :
    (Reading.forEach read items).Gives bs ↔
      List.Forall₂ (fun a b => (read a).Gives b) items bs := by
  induction items generalizing bs with
  | nil => rw [Reading.forEach, gives_pure, List.forall₂_nil_left_iff, eq_comm]
  | cons a rest ih =>
    rw [Reading.forEach, gives_seq, List.forall₂_cons_left_iff]
    constructor
    · rintro ⟨g, bs, first, later, rfl⟩
      obtain ⟨b, given, rfl⟩ := gives_map.mp first
      exact ⟨b, bs, given, ih.mp later, rfl⟩
    · rintro ⟨b, bs, given, later, rfl⟩
      exact ⟨_, bs, given.map List.cons, ih.mpr later, rfl⟩

end Reading

end GatewayLink
