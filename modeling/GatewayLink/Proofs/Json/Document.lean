import GatewayLink.Proofs.Json.Assembly
import GatewayLink.Proofs.Json.Number
import GatewayLink.Proofs.Json.Octets

/-! Reading back written documents.
A document comes back with every number replaced by what its text is read as: `Json.reread?`. Nothing else
changes, as long as the document is not nested deeper than the reader allows. -/

namespace GatewayLink.Json

def Number.reread? (n : Number) : Option Json :=
  (Lexeme.ofWord? n.text).bind Lexeme.scalar?

mutual

/-- What the text of a document is read as. -/
def reread? : Json → Option Json
  | .number n => n.reread?
  | .array items => (rereadItems? items).map .array
  | .object members => (rereadMembers? members).map .object
  | v => some v

def rereadItems? : List Json → Option (List Json)
  | [] => some []
  | v :: rest => v.reread?.bind fun v' => (rereadItems? rest).map (v' :: ·)

def rereadMembers? : List (String × Json) → Option (List (String × Json))
  | [] => some []
  | (key, v) :: rest => v.reread?.bind fun v' => (rereadMembers? rest).map ((key, v') :: ·)

end

def Lexeme.Follows (tail : List Lexeme) : Prop :=
  (∀ next ∈ tail.head?, next.isMark = true) ∧ Lexeme.Separated tail

theorem Lexeme.follows_mark {mark : Lexeme} {tail : List Lexeme} (marks : mark.isMark = true)
    (separated : Lexeme.Separated tail) : Lexeme.Follows (mark :: tail) := by
  refine ⟨fun next member => ?_, ?_⟩
  · cases member
    exact marks
  · cases mark <;> first | exact separated | cases marks

mutual

theorem separated_lexemes (v : Json) {tail : List Lexeme} (follows : Lexeme.Follows tail) :
    Lexeme.Separated (v.lexemes ++ tail) := by
  cases v with
  | null => exact follows
  | bool b => exact follows
  | number n => exact follows
  | text s => exact follows.2
  | array items =>
    simp only [lexemes, List.cons_append, List.append_assoc]
    exact separated_itemLexemes items (Lexeme.follows_mark rfl follows.2)
  | object members =>
    simp only [lexemes, List.cons_append, List.append_assoc]
    exact separated_memberLexemes members (Lexeme.follows_mark rfl follows.2)

theorem separated_itemLexemes (items : List Json) {tail : List Lexeme}
    (follows : Lexeme.Follows tail) : Lexeme.Separated (itemLexemes items ++ tail) := by
  match items with
  | [] => exact follows.2
  | [v] => exact separated_lexemes v follows
  | v :: next :: rest =>
    simp only [itemLexemes, List.cons_append, List.append_assoc]
    exact separated_lexemes v (Lexeme.follows_mark rfl (separated_itemLexemes (next :: rest) follows))

theorem separated_memberLexemes (members : List (String × Json)) {tail : List Lexeme}
    (follows : Lexeme.Follows tail) : Lexeme.Separated (memberLexemes members ++ tail) := by
  match members with
  | [] => exact follows.2
  | [(key, v)] => exact separated_lexemes v follows
  | (key, v) :: next :: rest =>
    simp only [memberLexemes, List.cons_append, List.append_assoc]
    exact separated_lexemes v
      (Lexeme.follows_mark rfl (separated_memberLexemes (next :: rest) follows))

end

theorem scalar?_ofWord? {word : List Char} {l : Lexeme} (read : Lexeme.ofWord? word = some l) :
    ∃ v, l.scalar? = some v := by
  unfold Lexeme.ofWord? at read
  split at read
  · cases read
    exact ⟨_, rfl⟩
  · split at read
    · cases read
      exact ⟨_, rfl⟩
    · split at read
      · cases read
        exact ⟨_, rfl⟩
      · obtain ⟨literal, -, number⟩ := Option.bind_eq_some_iff.mp read
        obtain ⟨n, -, rfl⟩ := Option.map_eq_some_iff.mp number
        exact ⟨_, rfl⟩

theorem lexemes_of_scalar? {l : Lexeme} {v : Json} (scalar : l.scalar? = some v) :
    v.lexemes = [l] ∧ v.depth = 0 := by
  cases l <;> cases scalar <;> exact ⟨rfl, rfl⟩

theorem Number.lexemes_reread (n : Number) :
    (Lexeme.ofWord? n.text).map (fun l => [l]) = n.reread?.map lexemes := by
  rw [Number.reread?]
  cases read : Lexeme.ofWord? n.text with
  | none => rfl
  | some l =>
    obtain ⟨v, scalar⟩ := scalar?_ofWord? read
    rw [Option.bind_some, scalar, Option.map_some, Option.map_some, (lexemes_of_scalar? scalar).1]

mutual

theorem mapM_reread_lexemes (v : Json) :
    v.lexemes.mapM Lexeme.reread? = v.reread?.map lexemes := by
  cases v with
  | null => rfl
  | bool b => rfl
  | number n =>
    rw [Json.reread?, ← n.lexemes_reread, lexemes, List.mapM_cons, Lexeme.reread?]
    cases Lexeme.ofWord? n.text <;> rfl
  | text s => rfl
  | array items =>
    simp only [lexemes, List.cons_append, List.mapM_cons, Lexeme.reread?, List.mapM_append,
      mapM_reread_itemLexemes items, Json.reread?]
    cases rereadItems? items <;> simp [lexemes]
  | object members =>
    simp only [lexemes, List.cons_append, List.mapM_cons, Lexeme.reread?, List.mapM_append,
      mapM_reread_memberLexemes members, Json.reread?]
    cases rereadMembers? members <;> simp [lexemes]

theorem mapM_reread_itemLexemes (items : List Json) :
    (itemLexemes items).mapM Lexeme.reread? = (rereadItems? items).map itemLexemes := by
  match items with
  | [] => rfl
  | [v] =>
    rw [itemLexemes, mapM_reread_lexemes v, rereadItems?, rereadItems?]
    cases v.reread? <;> rfl
  | v :: next :: rest =>
    have others := mapM_reread_itemLexemes (next :: rest)
    have nonempty (vs : List Json) (read : rereadItems? (next :: rest) = some vs) : vs ≠ [] := by
      obtain ⟨v', -, later⟩ := Option.bind_eq_some_iff.mp read
      obtain ⟨vs', -, rfl⟩ := Option.map_eq_some_iff.mp later
      exact List.cons_ne_nil v' vs'
    rw [rereadItems?, itemLexemes_cons v (List.cons_ne_nil next rest), List.mapM_append,
      mapM_reread_lexemes v, List.mapM_cons, others]
    cases v.reread? with
    | none => rfl
    | some v' =>
      cases read : rereadItems? (next :: rest) with
      | none => rfl
      | some vs => simp [Lexeme.reread?, itemLexemes_cons v' (nonempty vs read)]

theorem mapM_reread_memberLexemes (members : List (String × Json)) :
    (memberLexemes members).mapM Lexeme.reread? = (rereadMembers? members).map memberLexemes := by
  match members with
  | [] => rfl
  | [(key, v)] =>
    rw [memberLexemes, List.mapM_cons, List.mapM_cons, mapM_reread_lexemes v, rereadMembers?,
      rereadMembers?]
    cases v.reread? <;> rfl
  | (key, v) :: next :: rest =>
    have others := mapM_reread_memberLexemes (next :: rest)
    have nonempty (vs : Members) (read : rereadMembers? (next :: rest) = some vs) : vs ≠ [] := by
      obtain ⟨v', -, later⟩ := Option.bind_eq_some_iff.mp read
      obtain ⟨vs', -, rfl⟩ := Option.map_eq_some_iff.mp later
      exact List.cons_ne_nil _ vs'
    rw [rereadMembers?, memberLexemes_cons key v (List.cons_ne_nil next rest), List.cons_append,
      List.cons_append, List.mapM_cons, List.mapM_cons, List.mapM_append, mapM_reread_lexemes v,
      List.mapM_cons, others]
    cases v.reread? with
    | none => rfl
    | some v' =>
      cases read : rereadMembers? (next :: rest) with
      | none => rfl
      | some vs => simp [Lexeme.reread?, memberLexemes_cons key v' (nonempty vs read)]

end

mutual

theorem depth_reread {v v' : Json} (reread : v.reread? = some v') : v'.depth = v.depth := by
  cases v with
  | number n =>
    obtain ⟨l, -, scalar⟩ := Option.bind_eq_some_iff.mp reread
    exact (lexemes_of_scalar? scalar).2
  | array items =>
    obtain ⟨vs, read, rfl⟩ := Option.map_eq_some_iff.mp reread
    rw [depth, depth, depthItems_reread read]
  | object members =>
    obtain ⟨vs, read, rfl⟩ := Option.map_eq_some_iff.mp reread
    rw [depth, depth, depthMembers_reread read]
  | _ =>
    cases reread
    rfl

theorem depthItems_reread {items again : List Json} (reread : rereadItems? items = some again) :
    depthItems again = depthItems items := by
  match items with
  | [] =>
    cases reread
    rfl
  | v :: rest =>
    obtain ⟨v', first, later⟩ := Option.bind_eq_some_iff.mp reread
    obtain ⟨vs, read, rfl⟩ := Option.map_eq_some_iff.mp later
    rw [depthItems, depthItems, depth_reread first, depthItems_reread read]

theorem depthMembers_reread {members again : List (String × Json)}
    (reread : rereadMembers? members = some again) :
    depthMembers again = depthMembers members := by
  match members with
  | [] =>
    cases reread
    rfl
  | (key, v) :: rest =>
    obtain ⟨v', first, later⟩ := Option.bind_eq_some_iff.mp reread
    obtain ⟨vs, read, rfl⟩ := Option.map_eq_some_iff.mp later
    rw [depthMembers, depthMembers, depth_reread first, depthMembers_reread read]

end

/-- A document that is not nested too deeply is read back, up to its numbers. -/
theorem parse?_compact {v : Json} (fits : v.depth ≤ maxDepth) :
    parse? (octetsOfText v.compact) = v.reread? := by
  have separated : Lexeme.Separated v.lexemes := by
    simpa using separated_lexemes v (show Lexeme.Follows [] from ⟨nofun, trivial⟩)
  rw [parse?, charsOfOctets?_octetsOfText, Option.bind_some, compact, String.toList_ofList,
    scan?_lexemes separated fun n _ => isWord_text n, mapM_reread_lexemes]
  cases reread : v.reread? with
  | none => rfl
  | some v' => exact ofLexemes?_eq_some.mpr ⟨rfl, (depth_reread reread).le.trans fits⟩

end GatewayLink.Json
