import GatewayLink.Proofs.Json.Grammar
import GatewayLink.Toml.Quotation

/-! The texts that are TOML quotations.
`Spelled` tells which texts inside a quotation stand for given characters, and `IsText` which texts are
quotations of them. The machine reads each of these texts, and stops right behind it. -/

namespace GatewayLink.Toml

open Text

inductive IsNewline : List Char → Prop
  | feed : IsNewline ['\n']
  | pair : IsNewline ['\r', '\n']

def IsWs (cs : List Char) : Prop := ∀ c ∈ cs, isWs c = true

/-- Blanks over any number of lines. -/
inductive IsSpace : List Char → Prop
  | nil : IsSpace []
  | blank {c : Char} {cs : List Char} (blank : isWs c = true) (rest : IsSpace cs) : IsSpace (c :: cs)
  | newline {e cs : List Char} (newline : IsNewline e) (rest : IsSpace cs) : IsSpace (e ++ cs)

inductive IsCode : (letter : Char) → (digits : Nat) → Prop
  | short : IsCode 'u' 4
  | long : IsCode 'U' 8

/-- A text inside a quotation that stands for given characters. Over several lines a backslash at the end of a
line takes all blanks up to the next other character with it, and up to two marks in a row are plain. -/
inductive Spelled (q : Quotation) : List Char → List Char → Prop
  | nil : Spelled q [] []
  | plain {c : Char} {s cs : List Char} (plain : isPlain c = true) (mark : c ≠ q.mark)
    (slash : c = '\\' → q.escapes = false) (rest : Spelled q s cs) : Spelled q (c :: s) (c :: cs)
  | newline {e s cs : List Char} (lines : q.multiline = true) (newline : IsNewline e)
    (rest : Spelled q s cs) : Spelled q ('\n' :: s) (e ++ cs)
  | escape {e c : Char} {s cs : List Char} (escapes : q.escapes = true)
    (known : Quotation.unescape? e = some c) (rest : Spelled q s cs) :
    Spelled q (c :: s) ('\\' :: e :: cs)
  | code {letter : Char} {u : Nat} {ds s cs : List Char} (escapes : q.escapes = true)
    (code : IsCode letter ds.length) (value : Json.hexValue? 0 ds = some u)
    (scalar : Quotation.isScalar u = true) (rest : Spelled q s cs) :
    Spelled q (Char.ofNat u :: s) ('\\' :: letter :: (ds ++ cs))
  | joined {w e gap s cs : List Char} (lines : q.multiline = true) (escapes : q.escapes = true)
    (blanks : IsWs w) (newline : IsNewline e) (space : IsSpace gap)
    (stops : ∀ c ∈ cs.head?, isWs c = false ∧ c ≠ '\n' ∧ c ≠ '\r') (rest : Spelled q s cs) :
    Spelled q s ('\\' :: (w ++ (e ++ (gap ++ cs))))
  | marks {count : Nat} {s cs : List Char} (lines : q.multiline = true)
    (few : count = 1 ∨ count = 2) (stops : cs.head? ≠ some q.mark) (rest : Spelled q s cs) :
    Spelled q (List.replicate count q.mark ++ s) (List.replicate count q.mark ++ cs)

theorem Spelled.eq_nil {q : Quotation} {s cs : List Char} (spelled : Spelled q s cs)
    (empty : cs = []) : s = [] := by
  cases spelled with
  | nil => rfl
  | newline lines newline =>
    obtain ⟨rfl, -⟩ := List.append_eq_nil_iff.mp empty
    cases newline
  | marks lines few =>
    obtain ⟨none, -⟩ := List.append_eq_nil_iff.mp empty
    rw [List.replicate_eq_nil_iff] at none
    omega
  | joined lines escapes blanks newline space stops rest => cases empty
  | _ => cases empty

inductive IsMark : Char → Prop
  | basic : IsMark '"'
  | literal : IsMark '\''

inductive IsLineText (s : String) : List Char → Prop
  | line {mark : Char} {body : List Char} (isMark : IsMark mark)
    (spelled : Spelled ⟨mark, false, mark == '"'⟩ s.toList body) :
    IsLineText s (mark :: (body ++ [mark]))

/-- A quotation of a text: on one line, or over several lines, with a newline after its first marks that does not
count. -/
inductive IsText (s : String) : List Char → Prop
  | line {cs : List Char} (text : IsLineText s cs) : IsText s cs
  | block {mark : Char} {first body : List Char} (isMark : IsMark mark)
    (newline : first = [] ∧ (∀ c ∈ body.head?, c ≠ '\n' ∧ c ≠ '\r') ∨ IsNewline first)
    (spelled : Spelled ⟨mark, true, mark == '"'⟩ s.toList body) :
    IsText s (mark :: mark :: mark :: (first ++ (body ++ [mark, mark, mark])))

namespace Quotation

variable {q : Quotation} {read : List Char}

theorem run_next {place next : Place} {c : Char} {read' cs : List Char}
    (moved : q.move read place c = .next read' next) :
    q.run read place (c :: cs) = q.run read' next cs := by
  rw [run, moved]

theorem run_code {left value u : Nat} {ds cs : List Char} (length : ds.length = left)
    (nonempty : ds ≠ []) (total : Json.hexValue? value ds = some u) (scalar : isScalar u = true) :
    q.run read (.code left value) (ds ++ cs) = q.run (Char.ofNat u :: read) .inside cs := by
  induction ds generalizing left value with
  | nil => exact absurd rfl nonempty
  | cons c rest ih =>
    obtain ⟨d, digit, total⟩ := Option.bind_eq_some_iff.mp total
    rw [List.length_cons] at length
    cases rest with
    | nil =>
      cases total
      have last : ¬1 < left := by
        rw [List.length_nil] at length
        omega
      exact run_next (by simp [move, digit, last, scalar])
    | cons next rest =>
      have more : 1 < left := by
        rw [List.length_cons] at length
        omega
      have moved : q.move read (.code left value) c = .next read (.code (left - 1) (16 * value + d)) := by
        simp [move, digit, more]
      rw [List.cons_append, run_next moved]
      exact ih (by omega) (List.cons_ne_nil next rest) total

theorem run_space {gap cs : List Char} (space : IsSpace gap) :
    q.run read (.trimming true) (gap ++ cs) = q.run read (.trimming true) cs := by
  induction space with
  | nil => rfl
  | @blank c _ blank _ ih =>
    have moved : q.move read (.trimming true) c = .next read (.trimming true) := by
      simp [move, moveTrimming, blank]
    rw [List.cons_append, run_next moved, ih]
  | newline newline _ ih =>
    rw [List.append_assoc, ← ih]
    cases newline with
    | feed => exact run_next rfl
    | pair => exact (run_next rfl).trans (run_next rfl)

theorem run_ws {w cs : List Char} (blanks : IsWs w) :
    q.run read (.trimming false) (w ++ cs) = q.run read (.trimming false) cs := by
  induction w with
  | nil => rfl
  | cons c w ih =>
    obtain ⟨blank, blanks⟩ := List.forall_mem_cons.mp blanks
    have moved : q.move read (.trimming false) c = .next read (.trimming false) := by
      simp [move, moveTrimming, blank]
    rw [List.cons_append, run_next moved, ih blanks]

theorem run_joined {w e gap : List Char} {c : Char} {cs : List Char} (lines : q.multiline = true)
    (blanks : IsWs w) (newline : IsNewline e) (space : IsSpace gap)
    (stops : isWs c = false ∧ c ≠ '\n' ∧ c ≠ '\r') :
    q.run read .escape (w ++ (e ++ (gap ++ c :: cs))) = q.run read .inside (c :: cs) := by
  obtain ⟨first, others, front⟩ : ∃ first others, w ++ (e ++ (gap ++ c :: cs)) = first :: others ∧
      (isWs first || first == '\n' || first == '\r') = true := by
    cases w with
    | nil => cases newline <;> exact ⟨_, _, rfl, by decide⟩
    | cons first w => exact ⟨first, _, rfl, by simp [blanks first List.mem_cons_self]⟩
  have begun : q.run read .escape (first :: others) = q.run read (.trimming false) (first :: others) := by
    have moved : q.move read .escape first = q.move read (.trimming false) first := by
      have short : first ≠ 'u' := by
        rintro rfl
        exact absurd front.2 (by decide)
      have long : first ≠ 'U' := by
        rintro rfl
        exact absurd front.2 (by decide)
      rw [move, if_neg short, if_neg long, lines, Bool.true_and, if_pos front.2]
      rfl
    rw [run, run, moved]
  have ended : q.run read (.trimming false) (e ++ (gap ++ c :: cs)) =
      q.run read (.trimming true) (gap ++ c :: cs) := by
    cases newline with
    | feed => exact run_next rfl
    | pair => exact (run_next rfl).trans (run_next rfl)
  have resumed : q.move read (.trimming true) c = q.move read .inside c := by
    simp [move, moveTrimming, stops]
  rw [front.1, begun, ← front.1, run_ws blanks, ended, run_space space, run, run, resumed]

def closing (q : Quotation) : List Char :=
  if q.multiline then [q.mark, q.mark, q.mark] else [q.mark]

theorem run_closing {count : Nat} {rest : List Char} (lines : q.multiline = true) (few : count ≤ 2)
    (stops : rest.head? ≠ some q.mark) :
    q.run read .inside (List.replicate count q.mark ++ (q.closing ++ rest)) =
      some (String.ofList (List.replicate count q.mark ++ read).reverse, rest) := by
  have opened : q.move read .inside q.mark = .next read (.marks 1) := by
    simp [move, moveInside, lines]
  have counted (k : Nat) (less : k < 4) : q.move read (.marks k) q.mark = .next read (.marks (k + 1)) := by
    have inside : k ≠ 4 := by omega
    simp [move, inside]
  have full : q.move read (.marks 4) q.mark = .done (q.addMarks 2 read) := by
    simp [move]
  have ended (k : Nat) (three : 3 ≤ k) : q.run read (.marks k) rest =
      some (String.ofList (q.addMarks (k - 3) read).reverse, rest) := by
    cases rest with
    | nil => simp [run, atEnd, three]
    | cons c rest =>
      have other : c ≠ q.mark := fun same => stops (congrArg some same)
      simp [run, move, other, three]
  have marks : q.closing = [q.mark, q.mark, q.mark] := if_pos lines
  rcases (by omega : count = 0 ∨ count = 1 ∨ count = 2) with rfl | rfl | rfl
  · simp only [marks, List.replicate, List.nil_append, List.cons_append, run_next opened,
      run_next (counted 1 (by decide)), run_next (counted 2 (by decide)), ended 3 (by decide)]
    rfl
  · simp only [marks, List.replicate, List.nil_append, List.cons_append, run_next opened,
      run_next (counted 1 (by decide)), run_next (counted 2 (by decide)),
      run_next (counted 3 (by decide)), ended 4 (by decide)]
    rfl
  · simp only [marks, List.replicate, List.nil_append, List.cons_append, run_next opened,
      run_next (counted 1 (by decide)), run_next (counted 2 (by decide)),
      run_next (counted 3 (by decide))]
    rw [run, full]
    rfl

theorem run_marks {count : Nat} {c : Char} {cs : List Char} (lines : q.multiline = true)
    (few : count = 1 ∨ count = 2) (other : c ≠ q.mark) :
    q.run read .inside (List.replicate count q.mark ++ c :: cs) =
      q.run (List.replicate count q.mark ++ read) .inside (c :: cs) := by
  have opened : q.move read .inside q.mark = .next read (.marks 1) := by
    simp [move, moveInside, lines]
  have counted : q.move read (.marks 1) q.mark = .next read (.marks 2) := by simp [move]
  have ended (k : Nat) (less : k < 3) : q.move read (.marks k) c =
      q.move (List.replicate k q.mark ++ read) .inside c := by
    have more : ¬3 ≤ k := by omega
    simp [move, addMarks, other, more]
  rcases few with rfl | rfl
  · rw [List.replicate_one, List.singleton_append, run_next opened, run, run, ended 1 (by decide)]
    rfl
  · rw [List.replicate_succ, List.replicate_one, List.cons_append, List.singleton_append,
      run_next opened, run_next counted, run, run, ended 2 (by decide)]
    rfl

theorem opens_escape (isMark : IsMark q.mark) (escapes : q.escapes = true) :
    q.move read .inside '\\' = .next read .escape := by
  have other : '\\' ≠ q.mark := by
    generalize q.mark = mark at isMark
    cases isMark <;> decide
  simp [move, moveInside, other, escapes]

theorem move_plain {c : Char} (plain : isPlain c = true) (mark : c ≠ q.mark)
    (slash : c = '\\' → q.escapes = false) : q.move read .inside c = .next (c :: read) .inside := by
  have feed : c ≠ '\n' := by
    rintro rfl
    cases plain
  have carriage : c ≠ '\r' := by
    rintro rfl
    cases plain
  by_cases isSlash : c = '\\'
  · simp [move, moveInside, mark, slash isSlash, feed, carriage, plain]
  · simp [move, moveInside, mark, isSlash, feed, carriage, plain]

theorem run_newline {e cs : List Char} (isMark : IsMark q.mark) (lines : q.multiline = true)
    (newline : IsNewline e) : q.run read .inside (e ++ cs) = q.run ('\n' :: read) .inside cs := by
  have feed : '\n' ≠ q.mark ∧ '\r' ≠ q.mark := by
    generalize q.mark = mark at isMark
    cases isMark <;> decide
  cases newline with
  | feed => exact run_next (by simp [move, moveInside, feed, lines])
  | pair =>
    have first : q.move read .inside '\r' = .next read .afterReturn := by
      simp [move, moveInside, feed, lines]
    exact (run_next first).trans (run_next rfl)

theorem move_escape {e c : Char} (known : unescape? e = some c) :
    q.move read .escape e = .next (c :: read) .inside := by
  unfold unescape? at known
  split at known <;> cases known <;> simp [move, isWs, unescape?]

theorem run_spelled {s body rest : List Char} (spelled : Spelled q s body) (isMark : IsMark q.mark)
    (stops : q.multiline = true → rest.head? ≠ some q.mark) (read : List Char) :
    q.run read .inside (body ++ (q.closing ++ rest)) =
      some (String.ofList (read.reverse ++ s), rest) := by
  -- what has been read so far stands in front of what the rest spells
  induction spelled generalizing read with
  | nil =>
    cases lines : q.multiline with
    | false =>
      have marks : q.closing = [q.mark] := by simp [closing, lines]
      have closed : q.move read .inside q.mark = .done read := by simp [move, moveInside, lines]
      rw [marks, List.nil_append, List.singleton_append, run, closed, List.append_nil]
    | true => simpa using run_closing lines (Nat.zero_le 2) (stops lines)
  | plain plain mark slash _ ih =>
    rw [List.cons_append, run_next (move_plain plain mark slash), ih]
    simp
  | newline lines newline _ ih =>
    rw [List.append_assoc, run_newline isMark lines newline, ih]
    simp
  | escape escapes known _ ih =>
    rw [List.cons_append, List.cons_append, run_next (opens_escape isMark escapes),
      run_next (move_escape known), ih]
    simp
  | @code letter u ds s cs escapes code value scalar _ ih =>
    have nonempty : ds ≠ [] := by
      rintro rfl
      cases code
    have begun : q.move read .escape letter = .next read (.code ds.length 0) := by
      generalize ds.length = digits at code
      cases code <;> rfl
    rw [List.cons_append, List.cons_append, List.append_assoc, run_next (opens_escape isMark escapes),
      run_next begun, run_code rfl nonempty value scalar, ih]
    simp
  | @joined w e gap s cs lines escapes blanks newline space next _ ih =>
    obtain ⟨c, others, front, plain⟩ : ∃ c others, cs ++ (q.closing ++ rest) = c :: others ∧
        isWs c = false ∧ c ≠ '\n' ∧ c ≠ '\r' := by
      cases cs with
      | nil =>
        refine ⟨q.mark, [q.mark, q.mark] ++ rest, by simp [closing, lines], ?_⟩
        generalize q.mark = mark at isMark
        cases isMark <;> decide
      | cons c cs => exact ⟨c, _, rfl, next c rfl⟩
    have text : '\\' :: (w ++ (e ++ (gap ++ cs))) ++ (q.closing ++ rest) =
        '\\' :: (w ++ (e ++ (gap ++ c :: others))) := by
      rw [← front]
      simp
    rw [text, run_next (opens_escape isMark escapes), run_joined lines blanks newline space plain,
      ← front, ih]
  | @marks count s cs lines few next spelled ih =>
    cases cs with
    | nil =>
      obtain rfl := spelled.eq_nil rfl
      rw [List.append_nil, run_closing lines (by omega) (stops lines)]
      simp
    | cons c cs =>
      have other : c ≠ q.mark := fun same => next (congrArg some same)
      rw [List.append_assoc, List.cons_append, run_marks lines few other, ← List.cons_append, ih]
      simp

end Quotation

theorem lineQuotation?_spelled {mark : Char} {s body : List Char} (isMark : IsMark mark)
    (spelled : Spelled ⟨mark, false, mark == '"'⟩ s body) (rest : List Char) :
    lineQuotation? mark (body ++ mark :: rest) = some (String.ofList s, rest) :=
  Quotation.run_spelled spelled isMark nofun []

theorem newline?_eq_none {cs : List Char} (plain : ∀ c ∈ cs.head?, c ≠ '\n' ∧ c ≠ '\r') :
    newline? cs = none := by
  unfold newline?
  split
  · exact absurd rfl (plain _ rfl).1
  · exact absurd rfl (plain _ rfl).2
  · rfl

theorem newline?_append {e cs : List Char} (newline : IsNewline e) : newline? (e ++ cs) = some cs := by
  cases newline <;> rfl

theorem Spelled.head_ne_mark {q : Quotation} {s cs : List Char} (spelled : Spelled q s cs)
    (isMark : IsMark q.mark) (single : q.multiline = false) : cs.head? ≠ some q.mark := by
  have slash : '\\' ≠ q.mark := by
    generalize q.mark = mark at isMark
    cases isMark <;> decide
  cases spelled with
  | nil => nofun
  | plain plain mark => simpa using mark
  | escape => simpa using slash
  | code => simpa using slash
  | newline lines => exact absurd (single.symm.trans lines) nofun
  | joined lines => exact absurd (single.symm.trans lines) nofun
  | marks lines => exact absurd (single.symm.trans lines) nofun

theorem ne_marks {mark : Char} {s body rest : List Char} (isMark : IsMark mark)
    (spelled : Spelled ⟨mark, false, mark == '"'⟩ s body) (stops : ∀ c ∈ rest.head?, ¬IsMark c)
    (others : List Char) : body ++ mark :: rest ≠ mark :: mark :: others := by
  intro same
  have first := spelled.head_ne_mark isMark rfl
  cases body with
  | nil =>
    obtain ⟨-, rfl⟩ := List.cons.inj same
    exact stops mark rfl isMark
  | cons c body =>
    obtain ⟨rfl, -⟩ := List.cons.inj same
    exact first rfl

theorem quotation?_line {mark : Char} {cs : List Char} (isMark : IsMark mark)
    (single : ∀ others, cs ≠ mark :: mark :: others) :
    quotation? (mark :: cs) = lineQuotation? mark cs := by
  cases isMark with
  | basic =>
    unfold quotation?
    split
    · next same => exact absurd (List.cons.inj same).2 (single _)
    · next same => exact absurd (List.cons.inj same).1 (by decide)
    · next same => rw [(List.cons.inj same).2]
    · next same => exact absurd (List.cons.inj same).1 (by decide)
    · next other _ => exact absurd rfl (other _)
  | literal =>
    unfold quotation?
    split
    · next same => exact absurd (List.cons.inj same).1 (by decide)
    · next same => exact absurd (List.cons.inj same).2 (single _)
    · next same => exact absurd (List.cons.inj same).1 (by decide)
    · next same => rw [(List.cons.inj same).2]
    · next other => exact absurd rfl (other _)

theorem quotation?_block {mark : Char} (cs : List Char) (isMark : IsMark mark) :
    quotation? (mark :: mark :: mark :: cs) = blockQuotation? mark cs := by
  cases isMark <;> rfl

theorem quotation?_text {s : String} {cs rest : List Char} (text : IsText s cs)
    (stops : ∀ c ∈ rest.head?, ¬IsMark c) : quotation? (cs ++ rest) = some (s, rest) := by
  cases text with
  | line text =>
    obtain ⟨isMark, spelled⟩ := text
    rw [List.cons_append, List.append_assoc, List.singleton_append,
      quotation?_line isMark (ne_marks isMark spelled stops), lineQuotation?_spelled isMark spelled,
      String.ofList_toList]
  | @block mark first body isMark newline spelled =>
    have next : rest.head? ≠ some mark := fun same => stops mark same isMark
    have read := Quotation.run_spelled spelled isMark (fun _ => next) []
    rw [List.reverse_nil, List.nil_append, String.ofList_toList] at read
    have dropped : (newline? (first ++ (body ++ [mark, mark, mark] ++ rest))).getD
        (first ++ (body ++ [mark, mark, mark] ++ rest)) = body ++ ([mark, mark, mark] ++ rest) := by
      rw [List.append_assoc]
      rcases newline with ⟨rfl, plain⟩ | newline
      · have shown : ∀ c ∈ (body ++ ([mark, mark, mark] ++ rest)).head?, c ≠ '\n' ∧ c ≠ '\r' := by
          cases body with
          | nil => cases isMark <;> simp
          | cons c body => exact plain
        rw [List.nil_append, newline?_eq_none shown]
        rfl
      · rw [newline?_append newline]
        rfl
    have text : mark :: mark :: mark :: (first ++ (body ++ [mark, mark, mark])) ++ rest =
        mark :: mark :: mark :: (first ++ (body ++ [mark, mark, mark] ++ rest)) := by simp
    rw [text, quotation?_block _ isMark, blockQuotation?, dropped]
    exact read

end GatewayLink.Toml
