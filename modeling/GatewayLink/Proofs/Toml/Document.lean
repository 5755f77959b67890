import Mathlib.Data.List.DropRight
import GatewayLink.Proofs.Toml.Value

/-! The texts that are TOML documents.
`IsDocument` tells which texts consist of lines with given entries. The reader finds these entries if the integers
in the values that they assign fit 64 bits, and otherwise refuses the document. -/

namespace GatewayLink.Toml

open Text

inductive IsComment : List Char → Prop
  | none : IsComment []
  | text {cs : List Char} (plain : ∀ c ∈ cs, isPlain c = true) : IsComment ('#' :: cs)

/-- The end of a line, and what follows it. The last line needs no newline. -/
inductive EndsLine : (rest : List Char) → List Char → Prop
  | newline {w c e : List Char} (blanks : IsWs w) (comment : IsComment c) (newline : IsNewline e)
    (rest : List Char) : EndsLine rest (w ++ (c ++ (e ++ rest)))
  | last {w c : List Char} (blanks : IsWs w) (comment : IsComment c) : EndsLine [] (w ++ c)

inductive IsEntry : Entry → List Char → Prop
  | header {path : Path} {key : String} {k : List Char} (isKey : IsKeyAt path key k) :
    IsEntry (.header path key) ('[' :: (k ++ [']']))
  | arrayHeader {path : Path} {key : String} {k : List Char} (isKey : IsKeyAt path key k) :
    IsEntry (.arrayHeader path key) ('[' :: '[' :: (k ++ [']', ']']))
  | value {path : Path} {key : String} {v : Value} {k b cs : List Char} (isKey : IsKeyAt path key k)
    (before : IsWs b) (value : IsValue 0 v cs) : IsEntry (.assignment path key v) (k ++ '=' :: (b ++ cs))

/-- A text whose lines hold given entries; other lines are blank or hold a comment. -/
inductive IsLines : List Entry → List Char → Prop
  | nil : IsLines [] []
  | blank {entries : List Entry} {rest cs : List Char} (ended : EndsLine rest cs)
    (others : IsLines entries rest) : IsLines entries cs
  | entry {entry : Entry} {entries : List Entry} {w text rest cs : List Char} (space : IsWs w)
    (isEntry : IsEntry entry text) (ended : EndsLine rest cs) (others : IsLines entries rest) :
    IsLines (entry :: entries) (w ++ (text ++ cs))

/-- A document with given entries, perhaps behind a byte order mark. -/
def IsDocument (entries : List Entry) (document : String) : Prop :=
  IsLines entries document.toList ∨
    ∃ cs, document.toList = '\ufeff' :: cs ∧ IsLines entries cs

/-- The integers that are assigned fit 64 bits. -/
def Entry.Fits : Entry → Prop
  | .assignment _ _ v => v.Fits
  | _ => True

section Lines

variable {cs rest : List Char}

theorem skipWs_comment {c : List Char} (comment : IsComment c) (noBlank : skipWs rest = rest) :
    skipWs (c ++ rest) = c ++ rest := by
  cases comment with
  | none => exact noBlank
  | text => rfl

theorem skipWs_newline {e : List Char} (newline : IsNewline e) (rest : List Char) :
    skipWs (e ++ rest) = e ++ rest := by
  cases newline <;> rfl

theorem skipComment_comment {c : List Char} (comment : IsComment c)
    (stops : ∀ c ∈ rest.head?, isPlain c = false) (hash : rest.head? ≠ some '#') :
    skipComment (c ++ rest) = rest := by
  cases comment with
  | none =>
    rw [List.nil_append]
    unfold skipComment
    split
    · exact absurd rfl hash
    · rfl
  | text plain =>
    rw [List.cons_append, skipComment, List.dropWhile_append_of_pos plain]
    cases rest with
    | nil => rfl
    | cons c rest => simp [stops c rfl]

theorem endOfLine?_ended (ended : EndsLine rest cs) : endOfLine? cs = some rest := by
  cases ended with
  | @newline w c e blanks comment newline rest =>
    have stops : ∀ c ∈ (e ++ rest).head?, isPlain c = false := by
      cases newline <;> (rintro _ ⟨⟩; rfl)
    have hash : (e ++ rest).head? ≠ some '#' := by cases newline <;> nofun
    rw [endOfLine?, skipWs_append blanks, skipWs_comment comment (skipWs_newline newline rest),
      skipComment_comment comment stops hash]
    cases newline <;> rfl
  | @last w c blanks comment =>
    have closed : skipComment (c ++ []) = [] := skipComment_comment comment nofun nofun
    rw [List.append_nil] at closed
    have solid : skipWs (c ++ []) = c ++ [] := skipWs_comment comment rfl
    rw [List.append_nil] at solid
    rw [endOfLine?, skipWs_append blanks, solid, closed]

theorem EndsLine.ends (ended : EndsLine rest cs) : Ends cs := by
  cases ended with
  | newline blanks comment newline =>
    refine Ends.append blanks ?_
    cases comment with
    | none => exact ends_newline newline rest
    | text => exact .cons (by decide) _
  | last blanks comment =>
    refine Ends.append blanks ?_
    cases comment with
    | none => nofun
    | text => exact .cons (by decide) _

theorem EndsLine.shorter (ended : EndsLine rest cs) : rest.length < cs.length ∨ cs = [] ∧ rest = [] := by
  cases ended with
  | @newline w c e blanks comment newline =>
    have positive : 0 < e.length := by cases newline <;> decide
    simp only [List.length_append]
    omega
  | @last w c =>
    rcases List.eq_nil_or_concat (w ++ c) with isNil | ⟨_, _, text⟩
    · exact .inr ⟨isNil, rfl⟩
    · exact .inl (by simp [text])

theorem endOfLine?_start {c : Char} (start : c = '[' ∨ isKeyStart c = true) (tail : List Char) :
    endOfLine? (c :: tail) = none := by
  have other {d : Char} (bracket : d ≠ '[') (noStart : isKeyStart d = false) : c ≠ d := by
    rintro rfl
    rcases start with rfl | start
    · exact bracket rfl
    · exact absurd (start.symm.trans noStart) nofun
  have blank : isWs c = false := by
    simp [isWs, other (d := ' ') (by decide) (by decide), other (d := '\t') (by decide) (by decide)]
  have noComment : skipComment (c :: tail) = c :: tail := by
    unfold skipComment
    split
    · next same => exact absurd (List.cons.inj same).1 (other (by decide) (by decide))
    · rfl
  have noNewline : newline? (c :: tail) = none := by
    refine newline?_eq_none ?_
    rintro _ ⟨⟩
    exact ⟨other (by decide) (by decide), other (by decide) (by decide)⟩
  rw [endOfLine?, skipWs_cons blank, noComment]
  exact noNewline

end Lines

section Expressions

variable {entry : Entry} {text rest : List Char}

theorem IsEntry.head (isEntry : IsEntry entry text) :
    ∃ b c tail, IsWs b ∧ text = b ++ c :: tail ∧ (c = '[' ∨ isKeyStart c = true) := by
  have named {k : List Char} {parts : List String} (isKey : IsKey parts k) (others : List Char) :
      ∃ b c tail, IsWs b ∧ k ++ others = b ++ c :: tail ∧ (c = '[' ∨ isKeyStart c = true) := by
    obtain ⟨b, c, tail, blanks, rfl, start, -⟩ := isKey.head
    exact ⟨b, c, tail ++ others, blanks, by rw [List.append_assoc]; rfl, .inr start⟩
  cases isEntry with
  | header => exact ⟨[], _, _, nofun, rfl, .inl rfl⟩
  | arrayHeader => exact ⟨[], _, _, nofun, rfl, .inl rfl⟩
  | value isKey => exact named isKey.isKey _

theorem expression?_bracket {c : Char} (other : c ≠ '[') (tail : List Char) :
    expression? ('[' :: c :: tail) =
      match key? (c :: tail) with
      | some ((path, key), ']' :: rest) => some (.header path key, rest)
      | _ => none := by
  unfold expression?
  split
  · next same => exact absurd (List.cons.inj (List.cons.inj same).2).1 other
  · next same =>
    obtain rfl := (List.cons.inj same).2
    rfl
  · next plain => exact absurd rfl (plain _)

theorem expression?_key {c : Char} (other : c ≠ '[') (tail : List Char) :
    expression? (c :: tail) =
      match key? (c :: tail) with
      | some ((path, key), '=' :: rest) =>
        (value? (valueFuel rest) 0 (skipWs rest)).map fun (v, rest) => (.assignment path key v, rest)
      | _ => none := by
  unfold expression?
  split
  · next same => exact absurd (List.cons.inj same).1 other
  · next same => exact absurd (List.cons.inj same).1 other
  · rfl

theorem ne_bracket_of_isKeyStart {c : Char} (start : isKeyStart c = true) : c ≠ '[' := by
  rintro rfl
  cases start

variable {path : Path} {key : String} {k b cs : List Char}

theorem expression?_header (isKey : IsKeyAt path key k) :
    expression? ('[' :: (k ++ [']'] ++ rest)) = some (.header path key, rest) := by
  have read := key?_key isKey (endsKey_bracket rest)
  obtain ⟨b, c, tail, blanks, same, start, -⟩ := isKey.isKey.head
  obtain ⟨d, others, rfl, first⟩ : ∃ d others, k = d :: others ∧ d ≠ '[' := by
    cases b with
    | nil => exact ⟨c, tail, same, ne_bracket_of_isKeyStart start⟩
    | cons d b =>
      refine ⟨d, _, same, ?_⟩
      rintro rfl
      exact absurd (blanks '[' List.mem_cons_self) nofun
  rw [List.append_assoc, List.cons_append, expression?_bracket first, ← List.cons_append,
    List.singleton_append, read]
  rfl

theorem expression?_arrayHeader (isKey : IsKeyAt path key k) :
    expression? ('[' :: '[' :: (k ++ [']', ']'] ++ rest)) = some (.arrayHeader path key, rest) := by
  have read := key?_key isKey (endsKey_bracket (']' :: rest))
  have text : k ++ [']', ']'] ++ rest = k ++ ']' :: ']' :: rest := by simp
  rw [text, expression?, header?, read]
  rfl

theorem expression?_assignment {c : Char} {tail : List Char} (isKey : IsKeyAt path key k) (before : IsWs b)
    (first : isValueStart c = true) :
    expression? (skipWs (k ++ '=' :: (b ++ c :: tail) ++ rest)) =
      (value? (valueFuel (b ++ c :: tail ++ rest)) 0 (c :: tail ++ rest)).map fun (v, rest) =>
        (.assignment path key v, rest) := by
  obtain ⟨_, _, same, space, -⟩ := solid_of_isValueStart first (tail ++ rest)
  have value : skipWs (b ++ c :: tail ++ rest) = c :: tail ++ rest := by
    rw [List.append_assoc, skipWs_append before, List.cons_append, same, skipWs_cons space]
  obtain ⟨w, d, name, blanks, rfl, start, bare⟩ := isKey.isKey.head
  have read := key?_key ⟨bare, isKey.parts⟩ (endsKey_equals (b ++ c :: tail ++ rest))
  have text : skipWs (w ++ d :: name ++ '=' :: (b ++ c :: tail) ++ rest) =
      d :: name ++ '=' :: (b ++ c :: tail ++ rest) := by
    rw [List.append_assoc, List.append_assoc, skipWs_append blanks, List.cons_append,
      skipWs_cons (isWs_of_isKeyStart start)]
    rfl
  rw [text, List.cons_append, expression?_key (ne_bracket_of_isKeyStart start), ← List.cons_append, read]
  simp only [value]

theorem expression?_entry (isEntry : IsEntry entry text) (ends : Ends rest) :
    Takes entry.Fits (expression? (skipWs (text ++ rest))) (entry, rest) := by
  cases isEntry with
  | header isKey => exact .of_eq trivial (expression?_header isKey)
  | arrayHeader isKey => exact .of_eq trivial (expression?_arrayHeader isKey)
  | @value path key v k b cs isKey before value =>
    have enough : 2 * cs.length ≤ valueFuel (b ++ cs ++ rest) := by
      simp only [valueFuel, List.length_append]
      omega
    have read := (reads (valueFuel (b ++ cs ++ rest))).value value enough ends
    obtain ⟨c, tail, rfl, first⟩ := value.head
    rw [expression?_assignment isKey before first]
    exact read.map _

end Expressions

theorem entries?_succ (n : Nat) {cs : List Char} (nonempty : cs ≠ []) :
    entries? (n + 1) cs =
      match endOfLine? cs with
      | some rest => entries? n rest
      | none =>
        (expression? (skipWs cs)).bind fun read =>
          (endOfLine? read.2).bind fun rest => (entries? n rest).map (read.1 :: ·) := by
  have again : endOfLine? (skipWs cs) = endOfLine? cs := by
    rw [endOfLine?, endOfLine?, skipWs, skipWs, List.dropWhile_idempotent]
  rw [entries?, if_neg nonempty]
  cases line : endOfLine? cs <;> simp only [again, line]

theorem entries?_lines {entries : List Entry} {cs : List Char} {n : Nat} (lines : IsLines entries cs)
    (enough : cs.length ≤ n) : Takes (∀ entry ∈ entries, entry.Fits) (entries? n cs) entries := by
  -- a line takes a character of the text, unless it is the empty one at the end
  induction lines generalizing n with
  | nil => exact .of_eq nofun (by cases n <;> rfl)
  | @blank entries rest cs ended others ih =>
    rcases ended.shorter with shorter | ⟨rfl, rfl⟩
    · obtain ⟨n, rfl⟩ : ∃ m, n = m + 1 := Nat.exists_eq_add_one.mpr (by omega)
      have nonempty : cs ≠ [] := List.ne_nil_of_length_pos (by omega)
      rw [entries?_succ n nonempty, endOfLine?_ended ended]
      exact ih (by omega)
    · exact ih enough
  | @entry entry entries w text rest cs space isEntry ended others ih =>
    obtain ⟨b, c, tail, blanks, front, start⟩ := isEntry.head
    have nonempty : w ++ (text ++ cs) ≠ [] := by simp [front]
    have line : endOfLine? (w ++ (text ++ cs)) = none := by
      have first := endOfLine?_start start (tail ++ cs)
      rw [endOfLine?] at first ⊢
      rwa [skipWs_append space, front, List.append_assoc, skipWs_append blanks]
    have shorter : rest.length < (w ++ (text ++ cs)).length := by
      have : rest.length < cs.length ∨ cs = [] ∧ rest = [] := ended.shorter
      simp only [front, List.length_append, List.length_cons]
      rcases this with less | ⟨-, rfl⟩
      · omega
      · exact Nat.lt_add_left _ (by simp)
    obtain ⟨n, rfl⟩ : ∃ m, n = m + 1 := Nat.exists_eq_add_one.mpr (by omega)
    have read := expression?_entry isEntry ended.ends
    have later := (ih (by omega : rest.length ≤ n)).map (entry :: ·)
    rw [entries?_succ n nonempty, line, skipWs_append space]
    refine (read.bind ?_).congr List.forall_mem_cons
    rw [endOfLine?_ended ended, Option.bind_some]
    exact later

theorem IsLines.head {entries : List Entry} {cs : List Char} (lines : IsLines entries cs) :
    cs.head? ≠ some '\ufeff' := by
  have behind {w tail : List Char} (blanks : IsWs w) (other : tail.head? ≠ some '\ufeff') :
      (w ++ tail).head? ≠ some '\ufeff' := by
    cases w with
    | nil => exact other
    | cons c w =>
      intro same
      obtain rfl := Option.some.inj same
      exact absurd (blanks _ List.mem_cons_self) (by decide)
  cases lines with
  | nil => nofun
  | blank ended =>
    cases ended with
    | newline blanks comment newline => refine behind blanks ?_; cases comment <;> cases newline <;> simp
    | last blanks comment => refine behind blanks ?_; cases comment <;> simp
  | entry space isEntry =>
    obtain ⟨b, c, tail, blanks, rfl, start⟩ := isEntry.head
    refine behind space ?_
    rw [List.append_assoc]
    refine behind blanks ?_
    intro same
    obtain rfl := Option.some.inj same
    exact absurd start (by decide)

theorem parse?_document {entries : List Entry} {document : String} (isDocument : IsDocument entries document) :
    ((∀ entry ∈ entries, entry.Fits) → parse? document = entriesOf? entries) ∧
      ((¬∀ entry ∈ entries, entry.Fits) → parse? document = none) := by
  obtain ⟨cs, text, lines⟩ : ∃ cs, dropByteOrderMark document.toList = cs ∧ IsLines entries cs := by
    rcases isDocument with lines | ⟨cs, text, lines⟩
    · refine ⟨_, ?_, lines⟩
      unfold dropByteOrderMark
      split
      · next same => exact absurd (congrArg List.head? same) lines.head
      · rfl
    · exact ⟨cs, by rw [text]; rfl, lines⟩
  have read := entries?_lines lines le_rfl
  rw [parse?]
  simp only [text]
  exact ⟨fun fits => by rw [read.taken fits, Option.bind_some],
    fun large => by rw [read.refused large, Option.bind_none]⟩

section Plain

variable {entries : List Entry} {w cs rest ending : List Char}

theorem isWs_space : IsWs [' '] := by
  rintro _ (_ | ⟨_, ⟨⟩⟩)
  rfl

theorem isLineText_plain {mark : Char} (isMark : IsMark mark) (s : String)
    (plain : s.toList.all (fun c => isPlain c && c != mark && c != '\\') = true) :
    IsLineText s (mark :: (s.toList ++ [mark])) := by
  have spelled (cs : List Char) (plain : ∀ c ∈ cs, isPlain c = true ∧ c ≠ mark ∧ c ≠ '\\') :
      Spelled ⟨mark, false, mark == '"'⟩ cs cs := by
    induction cs with
    | nil => exact .nil
    | cons c cs ih =>
      obtain ⟨printed, other, slash⟩ := plain c List.mem_cons_self
      exact .plain printed other (fun same => absurd same slash)
        (ih fun d member => plain d (List.mem_cons_of_mem _ member))
  refine .line isMark (spelled s.toList fun c member => ?_)
  simpa [and_assoc] using List.all_eq_true.mp plain c member

theorem isComment_plain (s : String) (plain : s.toList.all isPlain = true) : IsComment ('#' :: s.toList) :=
  .text (List.all_eq_true.mp plain)

def IsBare (key : String) : Prop := key.toList ≠ [] ∧ key.toList.all isBareKey = true

instance (key : String) : Decidable (IsBare key) := inferInstanceAs (Decidable (_ ∧ _))

theorem IsBare.isKeyAt {key : String} (bare : IsBare key) (blanks : IsWs w) :
    IsKeyAt [] key (key.toList ++ w) := by
  have isPart : IsKeyPart key key.toList := by
    have isPart := IsKeyPart.bare bare.1 (List.all_eq_true.mp bare.2)
    rwa [String.ofList_toList] at isPart
  exact ⟨IsKey.last (b := []) nofun isPart blanks, by decide⟩

theorem EndsLine.feed (rest : List Char) : EndsLine rest ('\n' :: rest) :=
  .newline (w := []) nofun .none .feed rest

theorem IsLines.header {key : String} (bare : IsBare key) (others : IsLines entries rest) :
    IsLines (.header [] key :: entries) ('[' :: (key.toList ++ ']' :: '\n' :: rest)) := by
  have line := IsLines.entry (w := []) nofun (.header (bare.isKeyAt (w := []) nofun)) (.feed rest) others
  simpa using line

theorem IsLines.value {key : String} {v : Value} (bare : IsBare key) (value : IsValue 0 v cs)
    (ended : EndsLine rest ending) (others : IsLines entries rest) :
    IsLines (.assignment [] key v :: entries) (key.toList ++ ' ' :: '=' :: ' ' :: (cs ++ ending)) := by
  have line := IsLines.entry (w := []) nofun (.value (bare.isKeyAt isWs_space) isWs_space value) ended others
  simpa using line

end Plain

end GatewayLink.Toml
