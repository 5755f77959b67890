import GatewayLink.Json.Document

/-! Lexemes that make up a document.
The lexemes of a value, and of no other, are assembled to that value. In one direction the machine takes the
lexemes of a value as one step; in the other, what it has taken so far is what its open containers hold. -/

namespace GatewayLink.Json

mutual

def depth : Json → Nat
  | .array items => depthItems items + 1
  | .object members => depthMembers members + 1
  | _ => 0

def depthItems : List Json → Nat
  | [] => 0
  | v :: rest => max v.depth (depthItems rest)

def depthMembers : List (String × Json) → Nat
  | [] => 0
  | (_, v) :: rest => max v.depth (depthMembers rest)

end

def Lexeme.scalar? : Lexeme → Option Json
  | .null => some .null
  | .bool b => some (.bool b)
  | .number n => some (.number n)
  | _ => none

theorem depthItems_le {items : List Json} {n : Nat} :
    depthItems items ≤ n ↔ ∀ v ∈ items, v.depth ≤ n := by
  induction items with
  | nil => simp [depthItems]
  | cons v rest ih => rw [depthItems, Nat.max_le, ih, List.forall_mem_cons]

theorem depthMembers_le {members : List (String × Json)} {n : Nat} :
    depthMembers members ≤ n ↔ ∀ member ∈ members, member.2.depth ≤ n := by
  induction members with
  | nil => simp [depthMembers]
  | cons member rest ih => rw [depthMembers, Nat.max_le, ih, List.forall_mem_cons]

theorem itemLexemes_cons (v : Json) {rest : List Json} (nonempty : rest ≠ []) :
    itemLexemes (v :: rest) = v.lexemes ++ .comma :: itemLexemes rest := by
  obtain ⟨next, rest, rfl⟩ := List.exists_cons_of_ne_nil nonempty
  rfl

theorem memberLexemes_cons (key : String) (v : Json) {rest : Members} (nonempty : rest ≠ []) :
    memberLexemes ((key, v) :: rest) =
      .text key :: .colon :: v.lexemes ++ .comma :: memberLexemes rest := by
  obtain ⟨next, rest, rfl⟩ := List.exists_cons_of_ne_nil nonempty
  rfl

theorem itemLexemes_concat {items : List Json} (nonempty : items ≠ []) (v : Json) :
    itemLexemes (items ++ [v]) = itemLexemes items ++ .comma :: v.lexemes := by
  induction items with
  | nil => exact absurd rfl nonempty
  | cons first rest ih =>
    by_cases last : rest = []
    · subst last
      rfl
    · rw [List.cons_append, itemLexemes_cons first (by simp), ih last, itemLexemes_cons first last,
        List.append_assoc, List.cons_append]

theorem memberLexemes_concat {members : Members} (nonempty : members ≠ []) (key : String) (v : Json) :
    memberLexemes (members ++ [(key, v)]) =
      memberLexemes members ++ .comma :: .text key :: .colon :: v.lexemes := by
  induction members with
  | nil => exact absurd rfl nonempty
  | cons first rest ih =>
    by_cases last : rest = []
    · subst last
      rfl
    · rw [List.cons_append, memberLexemes_cons _ _ (by simp), ih last, memberLexemes_cons _ _ last]
      simp

namespace Assembly

variable {contexts : List Context} {need : Need}

theorem run_cons (a : Assembly) (l : Lexeme) (rest : List Lexeme) :
    a.run (l :: rest) = (a.step l).bind fun next => next.run rest := rfl

theorem step_scalar {l : Lexeme} {v : Json} (takes : takesValue contexts need = true)
    (scalar : l.scalar? = some v) : (building contexts need).step l = place v contexts := by
  cases l with
  | null => cases scalar; exact if_pos (by rw [takes]; rfl)
  | bool b => cases scalar; exact if_pos (by rw [takes]; rfl)
  | number n => cases scalar; exact if_pos (by rw [takes]; rfl)
  | _ => cases scalar

theorem step_text (takes : takesValue contexts need = true) (s : String) :
    (building contexts need).step (.text s) = place (.text s) contexts :=
  if_pos (by rw [takes]; rfl)

theorem step_beginArray (takes : takesValue contexts need = true) :
    (building contexts need).step .beginArray = openContext (.array []) contexts :=
  if_pos (by rw [takes]; rfl)

theorem step_beginObject (takes : takesValue contexts need = true) :
    (building contexts need).step .beginObject = openContext (.object []) contexts :=
  if_pos (by rw [takes]; rfl)

mutual

theorem run_lexemes (v : Json) {contexts : List Context} {need : Need} {tail : List Lexeme}
    (takes : takesValue contexts need = true) (fits : contexts.length + v.depth ≤ maxDepth) :
    (building contexts need).run (v.lexemes ++ tail) =
      (place v contexts).bind fun a => a.run tail := by
  cases v with
  | null => exact congrArg (Option.bind · _) (step_scalar takes rfl)
  | bool b => exact congrArg (Option.bind · _) (step_scalar takes rfl)
  | number n => exact congrArg (Option.bind · _) (step_scalar takes rfl)
  | text s => exact congrArg (Option.bind · _) (step_text takes s)
  | array items =>
    simp only [depth] at fits
    have opened : (building contexts need).step .beginArray =
        some (building (.array [] :: contexts) .first) :=
      (step_beginArray takes).trans (if_pos (by omega))
    simp only [lexemes, List.cons_append, List.append_assoc, List.nil_append, run_cons, opened,
      Option.bind_some]
    by_cases empty : items = []
    · subst empty
      rfl
    · have closed : (building (.array (items.reverse ++ []) :: contexts) .more).step .endArray =
          place (.array (items.reverse ++ []).reverse) contexts := rfl
      rw [List.append_nil, List.reverse_reverse] at closed
      rw [run_itemLexemes items empty (.inl rfl) (by omega), List.append_nil, run_cons, closed]
  | object members =>
    simp only [depth] at fits
    have opened : (building contexts need).step .beginObject =
        some (building (.object [] :: contexts) .first) :=
      (step_beginObject takes).trans (if_pos (by omega))
    simp only [lexemes, List.cons_append, List.append_assoc, List.nil_append, run_cons, opened,
      Option.bind_some]
    by_cases empty : members = []
    · subst empty
      rfl
    · have closed : (building (.object (members.reverse ++ []) :: contexts) .more).step .endObject =
          place (.object (members.reverse ++ []).reverse) contexts := rfl
      rw [List.append_nil, List.reverse_reverse] at closed
      rw [run_memberLexemes members empty (.inl rfl) (by omega), List.append_nil, run_cons, closed]

theorem run_itemLexemes (items : List Json) (nonempty : items ≠ []) {acc : List Json}
    {outer : List Context} {need : Need} {tail : List Lexeme} (entry : need = .first ∨ need = .next)
    (fits : outer.length + 1 + depthItems items ≤ maxDepth) :
    (building (.array acc :: outer) need).run (itemLexemes items ++ tail) =
      (building (.array (items.reverse ++ acc) :: outer) .more).run tail := by
  have takes : takesValue (.array acc :: outer) need = true := by
    rcases entry with rfl | rfl <;> rfl
  match items with
  | [] => exact absurd rfl nonempty
  | [v] =>
    simp only [depthItems] at fits
    rw [itemLexemes, run_lexemes v takes (by simp only [List.length_cons]; omega)]
    rfl
  | v :: next :: rest =>
    simp only [depthItems] at fits
    have comma : (building (.array (v :: acc) :: outer) .more).step .comma =
        some (building (.array (v :: acc) :: outer) .next) := rfl
    simp only [itemLexemes, List.append_assoc, List.cons_append]
    rw [run_lexemes v takes (by simp only [List.length_cons]; omega), place, Option.bind_some,
      run_cons, comma, Option.bind_some, run_itemLexemes (next :: rest) (List.cons_ne_nil next rest)
        (.inr rfl) (by simp only [depthItems]; omega)]
    simp

theorem run_memberLexemes (members : List (String × Json)) (nonempty : members ≠ [])
    {acc : Members} {outer : List Context} {need : Need} {tail : List Lexeme}
    (entry : need = .first ∨ need = .next)
    (fits : outer.length + 1 + depthMembers members ≤ maxDepth) :
    (building (.object acc :: outer) need).run (memberLexemes members ++ tail) =
      (building (.object (members.reverse ++ acc) :: outer) .more).run tail := by
  have named (key : String) : (building (.object acc :: outer) need).step (.text key) =
      some (building (.member acc key :: outer) .colon) := by
    rcases entry with rfl | rfl <;> rfl
  have colon (key : String) : (building (.member acc key :: outer) .colon).step .colon =
      some (building (.member acc key :: outer) .next) := rfl
  match members with
  | [] => exact absurd rfl nonempty
  | [(key, v)] =>
    simp only [depthMembers] at fits
    simp only [memberLexemes, List.cons_append, run_cons, Option.bind_some, named, colon]
    rw [run_lexemes v rfl (by simp only [List.length_cons]; omega)]
    rfl
  | (key, v) :: next :: rest =>
    simp only [depthMembers] at fits
    have comma : (building (.object ((key, v) :: acc) :: outer) .more).step .comma =
        some (building (.object ((key, v) :: acc) :: outer) .next) := rfl
    simp only [memberLexemes, List.append_assoc, List.cons_append, run_cons, Option.bind_some,
      named, colon]
    rw [run_lexemes v rfl (by simp only [List.length_cons]; omega), place, Option.bind_some,
      run_cons, comma, Option.bind_some,
      run_memberLexemes (next :: rest) (List.cons_ne_nil next rest) (.inr rfl)
        (by simp only [depthMembers]; omega)]
    simp

end

inductive Shows : Context → Need → List Lexeme → Prop
  | array : Shows (.array []) .first [.beginArray]
  | item {acc : List Json} (nonempty : acc ≠ []) :
    Shows (.array acc) .more (.beginArray :: itemLexemes acc.reverse)
  | nextItem {acc : List Json} {ls : List Lexeme} (shown : Shows (.array acc) .more ls) :
    Shows (.array acc) .next (ls ++ [.comma])
  | object : Shows (.object []) .first [.beginObject]
  | entry {acc : Members} (nonempty : acc ≠ []) :
    Shows (.object acc) .more (.beginObject :: memberLexemes acc.reverse)
  | nextEntry {acc : Members} {ls : List Lexeme} (shown : Shows (.object acc) .more ls) :
    Shows (.object acc) .next (ls ++ [.comma])
  | key {acc : Members} {need : Need} {ls : List Lexeme} {name : String}
    (shown : Shows (.object acc) need ls) (entry : need ≠ .more) :
    Shows (.member acc name) .colon (ls ++ [.text name])
  | colon {acc : Members} {ls : List Lexeme} {name : String}
    (shown : Shows (.member acc name) .colon ls) :
    Shows (.member acc name) .next (ls ++ [.colon])

def held : Context → List Json
  | .array items => items
  | .object members => members.map Prod.snd
  | .member members _ => members.map Prod.snd

/-- The lexemes that the open containers were read from, each of them where a value was expected. -/
inductive Open : List Context → Need → List Lexeme → Prop
  | outside : Open [] .next []
  | inside {outer : List Context} {expected need : Need} {before ls : List Lexeme} {inner : Context}
    (around : Open outer expected before) (takes : takesValue outer expected = true)
    (room : outer.length < maxDepth) (shown : Shows inner need ls)
    (shallow : ∀ v ∈ held inner, outer.length + 1 + v.depth ≤ maxDepth) :
    Open (inner :: outer) need (before ++ ls)

def From : Assembly → List Lexeme → Prop
  | building contexts need, ls => Open contexts need ls
  | complete v, ls => ls = v.lexemes ∧ v.depth ≤ maxDepth

variable {ls : List Lexeme}

theorem Open.length_le (opened : Open contexts need ls) : contexts.length ≤ maxDepth := by
  cases opened with
  | outside => exact Nat.zero_le _
  | inside _ _ room => exact room

theorem Open.place {v : Json} {next : Assembly} (opened : Open contexts need ls)
    (takes : takesValue contexts need = true) (fits : contexts.length + v.depth ≤ maxDepth)
    (placed : place v contexts = some next) : next.From (ls ++ v.lexemes) := by
  cases opened with
  | outside =>
    cases placed
    exact ⟨rfl, by simpa using fits⟩
  | @inside outer expected _ before ls inner around taken room shown shallow =>
    rw [List.length_cons] at fits
    rw [List.append_assoc]
    cases shown with
    | array =>
      cases placed
      exact .inside around taken room (.item (List.cons_ne_nil v [])) (by simpa [held] using fits)
    | @nextItem acc _ shown =>
      cases placed
      cases shown with
      | item nonempty =>
        have shown := Shows.item (List.cons_ne_nil v acc)
        rw [List.reverse_cons, itemLexemes_concat (by simpa using nonempty)] at shown
        have all : ∀ w ∈ held (.array (v :: acc)), outer.length + 1 + w.depth ≤ maxDepth :=
          List.forall_mem_cons.mpr ⟨fits, shallow⟩
        simpa [From] using Open.inside around taken room shown all
    | @colon acc _ name shown =>
      cases placed
      have all : ∀ w ∈ held (.object ((name, v) :: acc)), outer.length + 1 + w.depth ≤ maxDepth :=
        List.forall_mem_cons.mpr ⟨fits, shallow⟩
      have entry := Shows.entry (List.cons_ne_nil (name, v) acc)
      cases shown with
      | key shown _ =>
        cases shown with
        | object => simpa [From, memberLexemes] using Open.inside around taken room entry all
        | nextEntry shown =>
          cases shown with
          | entry nonempty =>
            rw [List.reverse_cons, memberLexemes_concat (by simpa using nonempty)] at entry
            simpa [From] using Open.inside around taken room entry all
        | entry => contradiction
    | _ => cases takes

theorem Open.openContext {inner : Context} {l : Lexeme} {next : Assembly}
    (opened : Open contexts need ls) (takes : takesValue contexts need = true)
    (shown : Shows inner .first [l]) (empty : held inner = [])
    (begun : openContext inner contexts = some next) : next.From (ls ++ [l]) := by
  unfold Assembly.openContext at begun
  split at begun
  · next room =>
    cases begun
    exact .inside opened takes room shown (by simp [empty])
  · cases begun

theorem Open.endArray {outer : List Context} {acc : List Json} {next : Assembly}
    (opened : Open (.array acc :: outer) need ls) (ends : need = .first ∨ need = .more)
    (placed : Assembly.place (.array acc.reverse) outer = some next) :
    next.From (ls ++ [.endArray]) := by
  cases opened with
  | @inside _ expected _ before ls _ around takes room shown shallow =>
    have inner : depthItems acc.reverse ≤ maxDepth - outer.length - 1 := by
      refine depthItems_le.mpr fun v member => ?_
      have fits := shallow v (List.mem_reverse.mp member)
      omega
    have fits : outer.length + (Json.array acc.reverse).depth ≤ maxDepth := by
      rw [depth]
      omega
    have result := around.place takes fits placed
    cases shown with
    | array => simpa [lexemes, itemLexemes] using result
    | item nonempty => simpa [lexemes] using result
    | nextItem _ => simp at ends

theorem Open.endObject {outer : List Context} {acc : Members} {next : Assembly}
    (opened : Open (.object acc :: outer) need ls) (ends : need = .first ∨ need = .more)
    (placed : Assembly.place (.object acc.reverse) outer = some next) :
    next.From (ls ++ [.endObject]) := by
  cases opened with
  | @inside _ expected _ before ls _ around takes room shown shallow =>
    have inner : depthMembers acc.reverse ≤ maxDepth - outer.length - 1 := by
      refine depthMembers_le.mpr fun member there => ?_
      have fits := shallow member.2 (List.mem_map_of_mem (List.mem_reverse.mp there))
      omega
    have fits : outer.length + (Json.object acc.reverse).depth ≤ maxDepth := by
      rw [depth]
      omega
    have result := around.place takes fits placed
    cases shown with
    | object => simpa [lexemes, memberLexemes] using result
    | entry nonempty => simpa [lexemes] using result
    | nextEntry _ => simp at ends

theorem Open.within {outer : List Context} {inner inner' : Context} {need' : Need} {l : Lexeme}
    (opened : Open (inner :: outer) need ls) (same : held inner' = held inner)
    (shows : ∀ ls, Shows inner need ls → Shows inner' need' (ls ++ [l])) :
    Open (inner' :: outer) need' (ls ++ [l]) := by
  cases opened with
  | inside around takes room shown shallow =>
    rw [List.append_assoc]
    exact .inside around takes room (shows _ shown) (same ▸ shallow)

theorem From.step {a next : Assembly} {l : Lexeme} (known : a.From ls)
    (stepped : a.step l = some next) : next.From (ls ++ [l]) := by
  cases a with
  | complete v => cases stepped
  | building contexts need =>
    unfold Assembly.step at stepped
    dsimp only at stepped
    split at stepped
    · next takesOther =>
      have takes : takesValue contexts need = true := (Bool.and_eq_true_iff.mp takesOther).1
      have fits {v : Json} (flat : v.depth = 0) : contexts.length + v.depth ≤ maxDepth := by
        rw [flat]
        exact Open.length_le known
      cases l with
      | null => exact Open.place (v := .null) known takes (fits rfl) stepped
      | bool b => exact Open.place (v := .bool b) known takes (fits rfl) stepped
      | number n => exact Open.place (v := .number n) known takes (fits rfl) stepped
      | text s => exact Open.place (v := .text s) known takes (fits rfl) stepped
      | beginArray => exact Open.openContext known takes .array rfl stepped
      | beginObject => exact Open.openContext known takes .object rfl stepped
      | _ => cases stepped
    · split at stepped
      · exact Open.endArray known (.inl rfl) stepped
      · exact Open.endArray known (.inr rfl) stepped
      · exact Open.endObject known (.inl rfl) stepped
      · exact Open.endObject known (.inr rfl) stepped
      · cases stepped
        exact Open.within known rfl fun _ shown => .key shown (by decide)
      · cases stepped
        exact Open.within known rfl fun _ shown => .key shown (by decide)
      · cases stepped
        exact Open.within known rfl fun _ shown => .colon shown
      · cases stepped
        exact Open.within known rfl fun _ shown => .nextItem shown
      · cases stepped
        exact Open.within known rfl fun _ shown => .nextEntry shown
      · cases stepped

theorem From.run {a last : Assembly} {more : List Lexeme} (known : a.From ls)
    (ran : a.run more = some last) : last.From (ls ++ more) := by
  -- the lexemes that have brought the assembly about grow by the one that is taken
  induction more generalizing a ls with
  | nil =>
    cases ran
    rwa [List.append_nil]
  | cons l rest ih =>
    obtain ⟨next, stepped, ran⟩ := Option.bind_eq_some_iff.mp ran
    simpa using ih (known.step stepped) ran

end Assembly

theorem ofLexemes?_eq_some {ls : List Lexeme} {v : Json} :
    ofLexemes? ls = some v ↔ ls = v.lexemes ∧ v.depth ≤ maxDepth := by
  constructor
  · intro made
    obtain ⟨last, ran, value⟩ := Option.bind_eq_some_iff.mp made
    have begun : Assembly.start.From [] := .outside
    have known := begun.run ran
    cases last with
    | building contexts need => cases value
    | complete v' =>
      cases value
      exact known
  · rintro ⟨rfl, fits⟩
    have expected : Assembly.takesValue [] .next = true := rfl
    have taken : Assembly.start.run (v.lexemes ++ []) = _ :=
      Assembly.run_lexemes v expected (by simpa using fits)
    rw [List.append_nil] at taken
    rw [ofLexemes?, taken]
    rfl

end GatewayLink.Json
