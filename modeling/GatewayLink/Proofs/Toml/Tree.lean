import GatewayLink.Proofs.Toml.Outline

/-! The tree of a document and its outline.
The tree that the reader builds has at each path what the outline says: entries that keep the rules are
accepted, and change the marks of the tree as `Outline.after` tells. -/

namespace GatewayLink.Toml

def Node.inside? : Node → Option Branch
  | .value _ => none
  | .table implicit dotted entries => some ⟨implicit, dotted, entries⟩
  | .tables [] => none
  | .tables (last :: _) => some ⟨false, false, last⟩

/-- An array without any table takes no entries and counts as a value. -/
def Node.mark : Node → Mark
  | .value v => .value v
  | .table implicit dotted _ => .table implicit dotted
  | .tables [] => .value (.array [])
  | .tables (_ :: _) => .tables

namespace Branch

def child (dotted : Bool) (key : String) (b : Branch) : Branch :=
  ((b.get? key).bind Node.inside?).getD ⟨true, dotted, []⟩

def reach (dotted : Bool) : Path → Branch → Branch
  | [], b => b
  | key :: path, b => reach dotted path (b.child dotted key)

/-- What is at a path, inside the latest table of each array on the way. -/
def mark? : Branch → Path → Option Mark
  | _, [] => none
  | b, [key] => (b.get? key).map Node.mark
  | b, key :: next :: path => (b.child false key).mark? (next :: path)

variable {b t : Branch} {dotted : Bool} {key : String} {path p q : Path}

theorem get?_set (b : Branch) (key other : String) (n : Node) :
    (b.set key n).get? other = if other = key then some n else b.get? other := by
  have kept (entries : List (String × Node)) (differs : other ≠ key) :
      (entries.filter fun entry => entry.1 != key).lookup other = entries.lookup other := by
    induction entries with
    | nil => rfl
    | cons entry entries ih =>
      obtain ⟨k, m⟩ := entry
      by_cases same : k = key
      · subst same
        have noMatch : (other == k) = false := by simpa using differs
        simp [ih, List.lookup_cons, noMatch]
      · simp [same, ih, List.lookup_cons]
  by_cases same : other = key
  · subst same
    simp [get?, set]
  · have noMatch : (other == key) = false := by simpa using same
    simp only [get?, set, List.lookup_cons, noMatch]
    rw [if_neg same]
    exact kept b.entries same

theorem mark?_congr (same : b.entries = t.entries) (p : Path) : b.mark? p = t.mark? p := by
  match p with
  | [] => rfl
  | [_] => simp only [mark?, get?, same]
  | _ :: _ :: _ => simp only [mark?, child, get?, same]

theorem mark?_empty (implicit dotted : Bool) (p : Path) : (⟨implicit, dotted, []⟩ : Branch).mark? p = none := by
  induction p generalizing implicit dotted with
  | nil => rfl
  | cons key p ih =>
    cases p with
    | nil => rfl
    | cons next path => exact ih true false

theorem mark?_cons (dotted : Bool) (key : String) (b : Branch) (nonempty : p ≠ []) :
    b.mark? (key :: p) = (b.child dotted key).mark? p := by
  obtain ⟨next, path, rfl⟩ := List.exists_cons_of_ne_nil nonempty
  rw [mark?]
  refine mark?_congr ?_ _
  rw [child, child]
  cases (b.get? key).bind Node.inside? <;> rfl

theorem mark?_reach (dotted : Bool) (path : Path) (b : Branch) (nonempty : q ≠ []) :
    (b.reach dotted path).mark? q = b.mark? (path ++ q) := by
  induction path generalizing b with
  | nil => rfl
  | cons key path ih =>
    rw [reach, ih, List.cons_append, mark?_cons dotted key b (by simp [nonempty])]

theorem mark?_set_ne {other : String} (differs : other ≠ key) (b : Branch) (n : Node) (p : Path) :
    (b.set key n).mark? (other :: p) = b.mark? (other :: p) := by
  have same : (b.set key n).get? other = b.get? other := (get?_set b key other n).trans (if_neg differs)
  cases p with
  | nil => rw [mark?, mark?, same]
  | cons next path => rw [mark?, mark?, child, child, same]

theorem mark?_set_self (key : String) (b : Branch) (n : Node) : (b.set key n).mark? [key] = some n.mark := by
  rw [mark?, get?_set, if_pos rfl]
  rfl

theorem mark?_set_below {n : Node} (nonempty : p ≠ []) (b : Branch) :
    (b.set key n).mark? (key :: p) = n.inside?.bind (·.mark? p) := by
  rw [mark?_cons false key _ nonempty, child, get?_set, if_pos rfl, Option.bind_some]
  cases n.inside? with
  | none => exact mark?_empty true false p
  | some t => rfl

def graft (key : String) (b table : Branch) : Branch :=
  b.set key <|
    match b.get? key with
    | some (.tables (_ :: earlier)) => .tables (table.entries :: earlier)
    | _ => table.node

def leads (dotted : Bool) : Option Mark → Bool
  | some (.value _) => false
  | some (.table implicit _) => !dotted || implicit
  | _ => true

theorem descend_cons (dotted : Bool) (change : Branch → Option Branch) (key : String) (path : Path)
    (b : Branch) :
    b.descend dotted change (key :: path) =
      if leads dotted (b.mark? [key]) then
        ((b.child dotted key).descend dotted change path).map fun table => b.graft key table
      else none := by
  rw [descend, mark?]
  match found : b.get? key with
  | none => simp [child, graft, found, leads]
  | some (.value _) => rfl
  | some (.table implicit wasDotted entries) =>
    cases dotted <;> cases implicit <;> simp [child, graft, found, leads, Node.mark, Node.inside?]
  | some (.tables []) => rfl
  | some (.tables (_ :: _)) => simp [child, graft, found, leads, Node.mark, Node.inside?]

def Sound (change : Branch → Option Branch) : Prop :=
  ∀ t t', change t = some t' → t'.implicit = t.implicit ∧ t'.dotted = t.dotted

variable {change : Branch → Option Branch} {b' : Branch}

theorem mark?_graft_below (nonempty : p ≠ []) (b table : Branch) :
    (b.graft key table).mark? (key :: p) = table.mark? p := by
  rw [graft, mark?_set_below nonempty]
  split
  · exact mark?_congr (b := ⟨false, false, table.entries⟩) (t := table) rfl p
  · rfl

theorem mark?_graft_self (led : leads dotted (b.mark? [key]) = true) {table : Branch}
    (kind : table.implicit = (b.child dotted key).implicit ∧ table.dotted = (b.child dotted key).dotted) :
    (b.graft key table).mark? [key] = some ((b.mark? [key]).getD (.table true dotted)) := by
  rw [graft, mark?_set_self]
  obtain ⟨implicit, wasDotted⟩ := kind
  rw [child] at implicit wasDotted
  rw [mark?] at led ⊢
  match found : b.get? key with
  | none =>
    simp only [found, Option.bind_none, Option.getD_none] at implicit wasDotted
    simp [node, Node.mark, implicit, wasDotted]
  | some (.value _) =>
    rw [found] at led
    cases led
  | some (.table _ _ _) =>
    simp only [found, Node.inside?, Option.bind_some, Option.getD_some] at implicit wasDotted
    simp [node, Node.mark, implicit, wasDotted]
  | some (.tables []) =>
    rw [found] at led
    cases led
  | some (.tables (_ :: _)) => rfl

/-- A change that puts a mark at a key of a table. What is below the key goes if the key begins anew. -/
def Puts (anew : Bool) (key : String) (m : Mark) (change : Branch → Option Branch) : Prop :=
  ∀ t t', change t = some t' → ∀ p, t'.mark? p =
    if p = [key] then some m else if anew = true ∧ [key] <+: p then none else t.mark? p

/-- What a change at the end of a path makes of the marks: below the path they are those of the changed
table, and on the way there missing tables are made. -/
structure Changed (dotted : Bool) (change : Branch → Option Branch) (path : Path) (b b' : Branch) : Prop where
  kind : b'.implicit = b.implicit ∧ b'.dotted = b.dotted
  below : ∃ t', change (b.reach dotted path) = some t' ∧ ∀ q ≠ [], b'.mark? (path ++ q) = t'.mark? q
  aside : ∀ p, (path <+: p → p = path) → b'.mark? p = Outline.way b.mark? (.table true dotted) path p

theorem descend_changed (sound : Sound change) (done : b.descend dotted change path = some b') :
    Changed dotted change path b b' := by
  -- the change itself is the same at every depth; only the path to it gets shorter
  induction path generalizing b b' with
  | nil =>
    refine ⟨sound _ _ done, ⟨b', done, fun q _ => rfl⟩, fun p aside => ?_⟩
    obtain rfl := aside List.nil_prefix
    rfl
  | cons key path ih =>
    rw [descend_cons] at done
    split at done
    · next led =>
      obtain ⟨table, changed, rfl⟩ := Option.map_eq_some_iff.mp done
      obtain ⟨kind, ⟨t', applied, below⟩, others⟩ := ih changed
      refine ⟨⟨rfl, rfl⟩, ⟨t', applied, fun q nonempty => ?_⟩, fun p aside => ?_⟩
      · rw [List.cons_append, mark?_graft_below (by simp [nonempty]), below q nonempty]
      · match p with
        | [] => rfl
        | other :: p =>
          by_cases same : other = key
          · subst same
            by_cases isNil : p = []
            · subst isNil
              rw [mark?_graft_self led kind]
              rw [Outline.way]
              cases b.mark? [other] <;> simp
            · have on : (path <+: p → p = path) := fun above => by
                have := aside (List.cons_prefix_cons.mpr ⟨rfl, above⟩)
                exact (List.cons.inj this).2
              rw [mark?_graft_below isNil, others p on, Outline.way, Outline.way, mark?_cons dotted other b isNil]
              simp [List.cons_prefix_cons, isNil]
          · have off : ¬other :: p <+: key :: path := fun on => same (List.cons_prefix_cons.mp on).1
            rw [graft, mark?_set_ne same, Outline.way_aside off]
    · cases done

theorem descend_isSome (led : ∀ p, p ≠ [] → p <+: path → leads dotted (b.mark? p) = true)
    (fine : (change (b.reach dotted path)).isSome = true) :
    (b.descend dotted change path).isSome = true := by
  induction path generalizing b with
  | nil => exact fine
  | cons key path ih =>
    have first := led [key] nofun (List.cons_prefix_cons.mpr ⟨rfl, List.nil_prefix⟩)
    rw [descend_cons, if_pos first, Option.isSome_map]
    refine ih (fun p nonempty on => ?_) fine
    rw [← mark?_cons dotted key b nonempty]
    exact led (key :: p) nofun (List.cons_prefix_cons.mpr ⟨rfl, on⟩)

theorem reach_dotted (nonempty : path ≠ []) (b : Branch) :
    (b.reach dotted path).dotted =
      match b.mark? path with
      | some (.table _ dotted) => dotted
      | some .tables => false
      | _ => dotted := by
  induction path generalizing b with
  | nil => exact absurd rfl nonempty
  | cons key path ih =>
    by_cases isNil : path = []
    · subst isNil
      rw [reach, reach, child, mark?]
      match b.get? key with
      | none => rfl
      | some (.value _) => rfl
      | some (.table _ _ _) => rfl
      | some (.tables []) => rfl
      | some (.tables (_ :: _)) => rfl
    · rw [reach, ih isNil, mark?_cons dotted key b isNil]

theorem get?_eq_none_iff : b.get? key = none ↔ b.mark? [key] = none := by
  rw [mark?, Option.map_eq_none_iff]

theorem mark?_of_none (free : b.get? key = none) : b.mark? (key :: p) = none := by
  cases p with
  | nil => rw [mark?, free, Option.map_none]
  | cons next path =>
    rw [mark?, child, free]
    exact mark?_empty true false _

theorem mark?_set {n : Node} (kept : ∀ q, q ≠ [] → n.inside?.bind (·.mark? q) = b.mark? (key :: q)) (p : Path) :
    (b.set key n).mark? p = if p = [key] then some n.mark else b.mark? p := by
  match p with
  | [] => rfl
  | other :: q =>
    by_cases here : other = key
    · subst here
      by_cases isNil : q = []
      · subst isNil
        rw [mark?_set_self, if_pos rfl]
      · rw [mark?_set_below isNil, kept q isNil, if_neg (by simp [isNil])]
    · rw [mark?_set_ne here, if_neg (by simp [here])]

theorem sound_openTable (key : String) : Sound (·.openTable key) := by
  intro t t' opened
  simp only [openTable] at opened
  split at opened <;> cases opened <;> exact ⟨rfl, rfl⟩

theorem puts_openTable (key : String) : Puts false key .opened (·.openTable key) := by
  intro b b' opened p
  simp only [openTable] at opened
  simp only [Bool.false_eq_true, false_and, if_false]
  split at opened
  · next free =>
    obtain rfl := Option.some.inj opened
    refine mark?_set (fun q _ => ?_) p
    rw [mark?_of_none free]
    exact mark?_empty false false q
  · next entries passed =>
    obtain rfl := Option.some.inj opened
    refine mark?_set (fun q nonempty => ?_) p
    rw [mark?_cons false key b nonempty, child, passed]
    exact mark?_congr (b := ⟨false, false, entries⟩) (t := ⟨true, false, entries⟩) rfl q
  · cases opened

theorem openTable_isSome (allowed : b.mark? [key] = none ∨ b.mark? [key] = some .passed) :
    (b.openTable key).isSome = true := by
  rw [mark?] at allowed
  rw [openTable]
  match found : b.get? key with
  | none => rfl
  | some (.table true false _) => rfl
  | some (.value _) | some (.table false _ _) | some (.table true true _) | some (.tables []) |
    some (.tables (_ :: _)) => simp [found, Node.mark] at allowed

theorem sound_appendTable (key : String) : Sound (·.appendTable key) := by
  intro t t' appended
  simp only [appendTable] at appended
  split at appended <;> cases appended <;> exact ⟨rfl, rfl⟩

theorem puts_appendTable (key : String) : Puts true key .tables (·.appendTable key) := by
  intro b b' appended p
  have put (elements : List (List (String × Node))) :
      (b.set key (.tables ([] :: elements))).mark? p =
        if p = [key] then some .tables else if true = true ∧ [key] <+: p then none else b.mark? p := by
    match p with
    | [] => rfl
    | other :: q =>
      by_cases here : other = key
      · subst here
        by_cases isNil : q = []
        · subst isNil
          rw [mark?_set_self, if_pos rfl]
          rfl
        · rw [mark?_set_below isNil, if_neg (by simp [isNil]), if_pos (by simp)]
          exact mark?_empty false false q
      · rw [mark?_set_ne here, if_neg (by simp [here]), if_neg (by simp [Ne.symm here])]
  simp only [appendTable] at appended
  split at appended
  · obtain rfl := Option.some.inj appended
    exact put []
  · obtain rfl := Option.some.inj appended
    exact put _
  · cases appended

theorem appendTable_isSome (allowed : b.mark? [key] = none ∨ b.mark? [key] = some .tables) :
    (b.appendTable key).isSome = true := by
  rw [mark?] at allowed
  rw [appendTable]
  match found : b.get? key with
  | none => rfl
  | some (.tables _) => rfl
  | some (.value _) | some (.table _ _ _) => simp [found, Node.mark] at allowed

def assign (path : Path) (key : String) (v : Value) (table : Branch) : Option Branch :=
  if table.dotted == path.isEmpty || (table.get? key).isSome then none else some (table.set key (.value v))

theorem setValue_eq (path : Path) (key : String) (v : Value) (b : Branch) :
    b.setValue path key (.value v) = b.descend true (assign path key v) path := rfl

theorem sound_assign (path : Path) (key : String) (v : Value) : Sound (assign path key v) := by
  intro t t' assigned
  rw [assign] at assigned
  split at assigned <;> cases assigned
  exact ⟨rfl, rfl⟩

theorem puts_assign (path : Path) (key : String) (v : Value) :
    Puts false key (.value v) (assign path key v) := by
  intro b b' assigned p
  simp only [Bool.false_eq_true, false_and, if_false]
  rw [assign] at assigned
  split at assigned
  · cases assigned
  · next free =>
    obtain rfl := Option.some.inj assigned
    simp only [Bool.or_eq_true, not_or, Option.not_isSome_iff_eq_none] at free
    refine mark?_set (fun q _ => ?_) p
    rw [mark?_of_none free.2]
    rfl

theorem Changed.cases (changed : Changed dotted change path b b') (p : Path) :
    (∃ t' q, change (b.reach dotted path) = some t' ∧ q ≠ [] ∧ p = path ++ q ∧ b'.mark? p = t'.mark? q) ∨
      (path <+: p → p = path) ∧ b'.mark? p = Outline.way b.mark? (.table true dotted) path p := by
  by_cases under : path <+: p ∧ p ≠ path
  · obtain ⟨⟨q, rfl⟩, beyond⟩ := under
    have nonempty : q ≠ [] := by simpa using beyond
    obtain ⟨t', applied, below⟩ := changed.below
    exact .inl ⟨t', q, applied, nonempty, rfl, below q nonempty⟩
  · have near : path <+: p → p = path := fun above => by_contra fun other => under ⟨above, other⟩
    exact .inr ⟨near, changed.aside p near⟩

theorem not_append_isPrefix_self (nonempty : q ≠ []) : ¬path ++ q <+: path := fun on => by
  have := on.length_le
  rw [List.length_append] at this
  exact nonempty (List.length_eq_zero_iff.mp (by omega))

theorem Changed.mark? {anew : Bool} {m : Mark} (changed : Changed dotted change path b b')
    (puts : Puts anew key m change) (p : Path) :
    b'.mark? p =
      if p = path ++ [key] then some m
      else if anew = true ∧ path ++ [key] <+: p then none
      else Outline.way b.mark? (.table true dotted) path p := by
  rcases changed.cases p with ⟨t', q, applied, nonempty, rfl, below⟩ | ⟨near, aside⟩
  · rw [below, puts _ _ applied q, mark?_reach dotted path b nonempty,
      Outline.way_aside (not_append_isPrefix_self nonempty)]
    simp [List.prefix_append_right_inj]
  · have off : ¬path ++ [key] <+: p := fun on => by
      obtain rfl := near ((List.prefix_append path [key]).trans on)
      exact not_append_isPrefix_self (List.cons_ne_nil _ _) on
    have other : p ≠ path ++ [key] := by
      rintro rfl
      exact off List.prefix_rfl
    rw [aside, if_neg other, if_neg fun on => off on.2]

theorem Changed.value {anew : Bool} {m : Mark} {v : Value} (changed : Changed dotted change path b b')
    (puts : Puts anew key m change) (held : b'.mark? p = some (.value v)) :
    b.mark? p = some (.value v) ∨ p = path ++ [key] ∧ m = .value v := by
  rw [changed.mark? puts] at held
  split at held
  · next here => exact .inr ⟨here, Option.some.inj held⟩
  · split at held
    · cases held
    · exact .inl (Outline.way_eq_value held)

theorem sound_setValue (path : Path) (key : String) (v : Value) : Sound (·.setValue path key (.value v)) :=
  fun _ _ changed => (descend_changed (sound_assign path key v) changed).kind

end Branch

/-- A draft that has come as far as an outline. Its current table has a header, which every header on the way
there and every dotted key respects. -/
structure Draft.Follows (d : Draft) (o : Outline) : Prop where
  mark : d.tree.mark? = o.mark
  current : d.current = o.current
  root : d.tree.dotted = false
  stands : ∀ p, p ≠ [] → p <+: o.current → ∃ m, o.mark p = some m ∧ ∀ v, m ≠ .value v
  opened : o.current ≠ [] → o.mark o.current = some .opened ∨ o.mark o.current = some .tables

namespace Draft

variable {d : Draft} {o : Outline} {entry : Entry}

theorem empty_follows : Follows empty .empty := by
  refine ⟨?_, rfl, rfl, fun p nonempty on => absurd (List.prefix_nil.mp on) nonempty,
    fun nonempty => absurd rfl nonempty⟩
  funext p
  exact Branch.mark?_empty false false p

theorem Follows.leads (follows : d.Follows o) {path : Path} (led : o.Leads path) (p : Path) (nonempty : p ≠ [])
    (on : p <+: path) : Branch.leads false (d.tree.mark? p) = true := by
  have other := led p nonempty on
  rw [follows.mark]
  match held : o.mark p with
  | none => rfl
  | some (.value v) => exact absurd held (other v)
  | some (.table _ _) => rfl
  | some .tables => rfl

theorem Follows.opens (follows : d.Follows o) {path : Path} {key : String} {anew : Bool} {m : Mark}
    {change : Branch → Option Branch} (led : o.Leads path) (own : m = .opened ∨ m = .tables)
    (sound : Branch.Sound change) (puts : Branch.Puts anew key m change)
    (fine : (change (d.tree.reach false path)).isSome = true) :
    ∃ tree, d.tree.descend false change path = some tree ∧
      Follows ⟨tree, path ++ [key]⟩
        ⟨fun p =>
          if p = path ++ [key] then some m
          else if anew = true ∧ path ++ [key] <+: p then none
          else Outline.way o.mark .passed path p, path ++ [key]⟩ := by
  have done := Branch.descend_isSome (follows.leads led) fine
  obtain ⟨tree, built⟩ := Option.isSome_iff_exists.mp done
  have changed := Branch.descend_changed sound built
  refine ⟨tree, built, ?_, rfl, changed.kind.2.trans follows.root, fun p nonempty on => ?_, fun _ => ?_⟩
  · funext p
    rw [changed.mark? puts, follows.mark]
  · rcases List.prefix_concat_iff.mp on with rfl | on
    · refine ⟨m, if_pos rfl, ?_⟩
      rcases own with rfl | rfl <;> (intro v same; cases same)
    · have shorter := on.length_le
      have off : ¬path ++ [key] <+: p := fun above => by
        have := above.length_le
        rw [List.length_append, List.length_singleton] at this
        omega
      have other : p ≠ path ++ [key] := by
        rintro rfl
        exact off List.prefix_rfl
      simp only [if_neg other, off, and_false, if_false, Outline.way]
      cases held : o.mark p with
      | some m =>
        refine ⟨m, rfl, fun v same => ?_⟩
        exact led p nonempty on v (held.trans (congrArg some same))
      | none =>
        refine ⟨.passed, if_pos ⟨nonempty, on⟩, fun v same => ?_⟩
        cases same
  · simp only [if_true]
    rcases own with rfl | rfl
    · exact .inl rfl
    · exact .inr rfl

theorem Follows.setValue_isSome (follows : d.Follows o) {path : Path} {key : String} {v : Value}
    (allowed : o.Allows (.assignment path key v)) :
    ((d.tree.reach false o.current).setValue path key (.value v)).isSome = true := by
  obtain ⟨onTheWay, free⟩ := allowed
  have marks {q : Path} (nonempty : q ≠ []) : (d.tree.reach false o.current).mark? q = o.mark (o.current ++ q) := by
    rw [Branch.mark?_reach false o.current d.tree nonempty, follows.mark]
  rw [Branch.setValue_eq]
  refine Branch.descend_isSome (fun p nonempty on => ?_) ?_
  · rw [marks nonempty]
    rcases onTheWay p nonempty on with held | held <;> rw [held] <;> rfl
  · have kind : ((d.tree.reach false o.current).reach true path).dotted = !path.isEmpty := by
      by_cases isNil : path = []
      · subst isNil
        by_cases top : o.current = []
        · rw [top]
          exact follows.root
        · rw [Branch.reach, Branch.reach_dotted top, follows.mark]
          rcases follows.opened top with held | held <;> rw [held] <;> rfl
      · rw [Branch.reach_dotted isNil, marks isNil]
        rcases onTheWay path isNil List.prefix_rfl with held | held <;> rw [held] <;> simp [isNil]
    have absent : ((d.tree.reach false o.current).reach true path).get? key = none := by
      rw [Branch.get?_eq_none_iff, Branch.mark?_reach true path _ (List.cons_ne_nil _ _), marks (by simp)]
      exact free
    simp [Branch.assign, kind, absent]

theorem Follows.assigns (follows : d.Follows o) {path : Path} {key : String} {v : Value}
    (allowed : o.Allows (.assignment path key v)) :
    ∃ d', d.add (.assignment path key v) = some d' ∧ d'.Follows (o.after (.assignment path key v)) := by
  have led (p : Path) (nonempty : p ≠ []) (on : p <+: o.current) : Branch.leads false (d.tree.mark? p) = true := by
    obtain ⟨m, held, other⟩ := follows.stands p nonempty on
    rw [follows.mark, held]
    cases m with
    | value v => exact absurd rfl (other v)
    | _ => rfl
  have done : (d.tree.descend false (·.setValue path key (.value v)) o.current).isSome = true :=
    Branch.descend_isSome led (follows.setValue_isSome allowed)
  obtain ⟨tree, built⟩ := Option.isSome_iff_exists.mp done
  have outer := Branch.descend_changed (Branch.sound_setValue path key v) built
  have marks : tree.mark? = (o.after (.assignment path key v)).mark := by
    funext p
    rcases outer.cases p with ⟨t', q, applied, nonempty, rfl, below⟩ | ⟨near, aside⟩
    · have inner := Branch.descend_changed (Branch.sound_assign path key v) applied
      rw [below, inner.mark? (Branch.puts_assign path key v), Outline.way,
        Branch.mark?_reach false o.current d.tree nonempty, follows.mark]
      simp [Outline.after, Outline.way, List.prefix_append_right_inj, nonempty]
    · rw [aside, follows.mark]
      have stands (p : Path) (nonempty : p ≠ []) (on : p <+: o.current) : ∃ m, o.mark p = some m :=
        (follows.stands p nonempty on).imp fun _ => And.left
      exact (Outline.after_assignment_outside (congrFun follows.mark []).symm stands
        fun above => near above ▸ List.prefix_rfl).symm
  refine ⟨⟨tree, d.current⟩, ?_, marks, follows.current, outer.kind.2.trans follows.root, ?_, ?_⟩
  · rw [Draft.add, follows.current, built]
    rfl
  · intro p nonempty on
    obtain ⟨m, held, other⟩ := follows.stands p nonempty on
    exact ⟨m, Outline.after_assignment_of_prefix held on, other⟩
  · intro nonempty
    exact (follows.opened nonempty).imp (Outline.after_assignment_of_prefix · List.prefix_rfl)
      (Outline.after_assignment_of_prefix · List.prefix_rfl)

theorem Follows.add (follows : d.Follows o) (allowed : o.Allows entry) :
    ∃ d', d.add entry = some d' ∧ d'.Follows (o.after entry) := by
  have key? {path : Path} {key : String} :
      (d.tree.reach false path).mark? [key] = o.mark (path ++ [key]) := by
    rw [Branch.mark?_reach false path d.tree (List.cons_ne_nil _ _), follows.mark]
  cases entry with
  | header path key =>
    obtain ⟨tree, built, next⟩ := follows.opens allowed.1 (.inl rfl) (Branch.sound_openTable key)
      (Branch.puts_openTable key) (Branch.openTable_isSome (by rw [key?]; exact allowed.2))
    refine ⟨⟨tree, path ++ [key]⟩, by rw [Draft.add, built]; rfl, ?_⟩
    simpa [Outline.after] using next
  | arrayHeader path key =>
    obtain ⟨tree, built, next⟩ := follows.opens allowed.1 (.inr rfl) (Branch.sound_appendTable key)
      (Branch.puts_appendTable key) (Branch.appendTable_isSome (by rw [key?]; exact allowed.2))
    refine ⟨⟨tree, path ++ [key]⟩, by rw [Draft.add, built]; rfl, ?_⟩
    simpa [Outline.after] using next
  | assignment path key v => exact follows.assigns allowed

theorem Follows.run {entries : List Entry} (follows : d.Follows o) (consistent : o.Consistent entries) :
    ∃ d', entries.foldlM Draft.add d = some d' ∧ d'.Follows (o.run entries) := by
  -- draft and outline go forward together, one entry at a time
  induction entries generalizing d o with
  | nil => exact ⟨d, rfl, follows⟩
  | cons entry entries ih =>
    obtain ⟨next, added, kept⟩ := follows.add consistent.1
    obtain ⟨d', done, last⟩ := ih kept consistent.2
    refine ⟨d', ?_, last⟩
    rw [List.foldlM_cons, added]
    exact done

variable {d' : Draft} {p : Path} {v : Value}

theorem add_current (added : d.add entry = some d') : d'.current = entry.enters d.current := by
  cases entry <;> (obtain ⟨_, -, rfl⟩ := Option.map_eq_some_iff.mp added; rfl)

theorem add_mark?_eq_value (added : d.add entry = some d') (held : d'.tree.mark? p = some (.value v)) :
    d.tree.mark? p = some (.value v) ∨ (p, v) ∈ assignments d.current [entry] := by
  cases entry with
  | header path key =>
    obtain ⟨tree, built, rfl⟩ := Option.map_eq_some_iff.mp added
    have changed := Branch.descend_changed (Branch.sound_openTable key) built
    refine (changed.value (Branch.puts_openTable key) held).imp_right fun ⟨_, own⟩ => ?_
    cases own
  | arrayHeader path key =>
    obtain ⟨tree, built, rfl⟩ := Option.map_eq_some_iff.mp added
    have changed := Branch.descend_changed (Branch.sound_appendTable key) built
    refine (changed.value (Branch.puts_appendTable key) held).imp_right fun ⟨_, own⟩ => ?_
    cases own
  | assignment path key w =>
    obtain ⟨tree, built, rfl⟩ := Option.map_eq_some_iff.mp added
    have outer := Branch.descend_changed (Branch.sound_setValue path key w) built
    rcases outer.cases p with ⟨t', q, applied, nonempty, rfl, below⟩ | ⟨-, aside⟩
    · have inner := Branch.descend_changed (Branch.sound_assign path key w) applied
      rcases inner.value (Branch.puts_assign path key w) (below.symm.trans held) with before | ⟨here, own⟩
      · rw [Branch.mark?_reach false d.current d.tree nonempty] at before
        exact .inl before
      · obtain rfl := Mark.value.inj own
        exact .inr (by simp [assignments, here])
    · exact .inl (Outline.way_eq_value (aside.symm.trans held))

theorem foldlM_mark?_eq_value {entries : List Entry} (done : entries.foldlM Draft.add d = some d')
    (held : d'.tree.mark? p = some (.value v)) :
    d.tree.mark? p = some (.value v) ∨ (p, v) ∈ assignments d.current entries := by
  induction entries generalizing d with
  | nil =>
    obtain rfl := Option.some.inj done
    exact .inl held
  | cons entry entries ih =>
    rw [List.foldlM_cons] at done
    obtain ⟨next, added, rest⟩ := Option.bind_eq_some_iff.mp done
    rw [assignments_cons, List.mem_append, ← add_current added]
    rcases ih rest with before | later
    · exact (add_mark?_eq_value added before).imp_right .inl
    · exact .inr (.inr later)

end Draft

section Documents

variable {entries : List Entry}

theorem lookup_entryValues (nodes : List (String × Node)) (key : String) :
    (entryValues nodes).lookup key = (nodes.lookup key).map Node.toValue := by
  induction nodes with
  | nil => rfl
  | cons node nodes ih =>
    obtain ⟨k, n⟩ := node
    rw [entryValues, List.lookup_cons, List.lookup_cons]
    cases key == k with
    | true => rfl
    | false => exact ih

theorem Node.toValue_of_mark {n : Node} {v : Value} (mark : n.mark = .value v) : n.toValue = v := by
  match n with
  | .value w => exact Mark.value.inj mark
  | .tables [] => exact Mark.value.inj mark

theorem Node.eq_value {n : Node} {v : Value} (same : n.toValue = v) (noTable : ∀ members, v ≠ .table members)
    (noArray : ∀ items, v ≠ .array items) : n = .value v := by
  cases n with
  | value w => exact congrArg Node.value same
  | table => exact absurd same.symm (noTable _)
  | tables => exact absurd same.symm (noArray _)

theorem exists_of_mem_assignments {current p : Path} {v : Value} (assigned : (p, v) ∈ assignments current entries) :
    ∃ path key, .assignment path key v ∈ entries := by
  induction entries generalizing current with
  | nil => exact absurd assigned List.not_mem_nil
  | cons entry entries ih =>
    rw [assignments_cons, List.mem_append] at assigned
    rcases assigned with now | later
    · cases entry with
      | assignment path key w =>
        obtain ⟨-, rfl⟩ := Prod.mk.inj (List.mem_singleton.mp now)
        exact ⟨path, key, List.mem_cons_self⟩
      | _ => exact absurd now List.not_mem_nil
    · obtain ⟨path, key, member⟩ := ih later
      exact ⟨path, key, List.mem_cons_of_mem _ member⟩

theorem exists_mem_assignments {path : Path} {key : String} {v : Value}
    (member : .assignment path key v ∈ entries) (current : Path) : ∃ p, (p, v) ∈ assignments current entries := by
  induction entries generalizing current with
  | nil => exact absurd member List.not_mem_nil
  | cons entry entries ih =>
    rw [assignments_cons]
    rcases List.mem_cons.mp member with rfl | later
    · exact ⟨_, List.mem_append_left _ (List.mem_singleton.mpr rfl)⟩
    · obtain ⟨p, assigned⟩ := ih later (entry.enters current)
      exact ⟨p, List.mem_append_right _ assigned⟩

theorem mem_paths_of_assigned {current p : Path} {v : Value} (assigned : (p, v) ∈ assignments current entries) :
    p ∈ paths current entries := by
  induction entries generalizing current with
  | nil => exact absurd assigned List.not_mem_nil
  | cons entry entries ih =>
    rw [assignments_cons, List.mem_append] at assigned
    rcases assigned with now | later
    · cases entry with
      | assignment path key w =>
        obtain ⟨rfl, -⟩ := Prod.mk.inj (List.mem_singleton.mp now)
        exact List.mem_cons_self
      | _ => exact absurd now List.not_mem_nil
    · exact List.mem_cons_of_mem _ (ih later)

theorem entriesOf?_consistent (consistent : Outline.empty.Consistent entries) :
    ∃ tree : Branch, entriesOf? entries = some (entryValues tree.entries) ∧
      tree.mark? = (Outline.empty.run entries).mark := by
  obtain ⟨d, done, follows⟩ := Draft.empty_follows.run consistent
  refine ⟨d.tree, ?_, follows.mark⟩
  rw [entriesOf?, done]
  rfl

theorem entriesOf?_assigned {t : Entries} (described : entriesOf? entries = some t) :
    ∃ tree : Branch, t = entryValues tree.entries ∧
      ∀ p v, tree.mark? p = some (.value v) → (p, v) ∈ assignments [] entries := by
  obtain ⟨d, done, rfl⟩ := Option.map_eq_some_iff.mp described
  refine ⟨d.tree, rfl, fun p v held => ?_⟩
  refine (Draft.foldlM_mark?_eq_value done held).resolve_left fun first => ?_
  exact absurd ((Branch.mark?_empty false false p).symm.trans first) nofun

end Documents

end GatewayLink.Toml
