import GatewayLink.Proofs.Toml.Content
import GatewayLink.Proofs.Toml.Quotation
import GatewayLink.Proofs.Toml.Word
import GatewayLink.Toml.Document

/-! The texts that are TOML keys and values.
`IsKey` tells which texts are dotted keys, and `IsValue` which texts are values, with the layout that each allows:
blanks everywhere, newlines and comments inside arrays only. The integers in a value may have any size. The readers
take each of these texts up to its end, unless an integer in it does not fit 64 bits. -/

namespace GatewayLink.Toml

open Text

/-- Blanks, newlines and comments between the items of an array. -/
inductive IsGap : List Char → Prop
  | nil : IsGap []
  | blank {c : Char} {cs : List Char} (blank : isWs c = true) (rest : IsGap cs) : IsGap (c :: cs)
  | newline {e cs : List Char} (newline : IsNewline e) (rest : IsGap cs) : IsGap (e ++ cs)
  | comment {text e cs : List Char} (plain : ∀ c ∈ text, isPlain c = true) (newline : IsNewline e)
    (rest : IsGap cs) : IsGap ('#' :: (text ++ (e ++ cs)))

inductive IsKeyPart : String → List Char → Prop
  | bare {cs : List Char} (nonempty : cs ≠ []) (bare : ∀ c ∈ cs, isBareKey c = true) :
    IsKeyPart (String.ofList cs) cs
  | quoted {s : String} {cs : List Char} (text : IsLineText s cs) : IsKeyPart s cs

inductive IsKey : List String → List Char → Prop
  | last {part : String} {b cs a : List Char} (before : IsWs b) (isPart : IsKeyPart part cs)
    (after : IsWs a) : IsKey [part] (b ++ (cs ++ a))
  | next {part : String} {parts : List String} {b cs a rest : List Char} (before : IsWs b)
    (isPart : IsKeyPart part cs) (after : IsWs a) (others : IsKey parts rest) :
    IsKey (part :: parts) (b ++ (cs ++ (a ++ '.' :: rest)))

structure IsKeyAt (path : Path) (key : String) (cs : List Char) : Prop where
  isKey : IsKey (path ++ [key]) cs
  parts : path.length + 1 < depthLimit

mutual

/-- A text that is a value inside `depth` open containers. -/
inductive IsValue : (depth : Nat) → Value → List Char → Prop
  | text {depth : Nat} {s : String} {cs : List Char} (text : IsText s cs) : IsValue depth (.text s) cs
  | word {depth : Nat} {v : Value} {cs : List Char} (word : IsWord v cs) : IsValue depth v cs
  | integer {depth : Nat} {i : Int} {cs : List Char} (integer : IsInteger i cs) : IsValue depth (.integer i) cs
  | array {depth : Nat} {items : List Value} {cs : List Char} (shallow : depth + 1 < depthLimit)
    (isItems : IsItems (depth + 1) items cs) : IsValue depth (.array items) ('[' :: cs)
  | empty {depth : Nat} {w : List Char} (shallow : depth + 1 < depthLimit) (blanks : IsWs w) :
    IsValue depth (.table []) ('\x7b' :: (w ++ ['\x7d']))
  | table {depth : Nat} {assignments : List (Path × String × Value)} {v : Value} {cs : List Char}
    (shallow : depth + 1 < depthLimit) (listed : IsAssignments (depth + 1) assignments cs)
    (described : inlineTable? assignments = some v) : IsValue depth v ('\x7b' :: cs)

/-- What stands behind the opening bracket of an array; a comma may follow the last item. -/
inductive IsItems : (depth : Nat) → List Value → List Char → Prop
  | nil {depth : Nat} {g : List Char} (gap : IsGap g) : IsItems depth [] (g ++ [']'])
  | last {depth : Nat} {v : Value} {b cs a : List Char} (before : IsGap b) (value : IsValue depth v cs)
    (after : IsGap a) : IsItems depth [v] (b ++ (cs ++ (a ++ [']'])))
  | cons {depth : Nat} {v : Value} {vs : List Value} {b cs a rest : List Char} (before : IsGap b)
    (value : IsValue depth v cs) (after : IsGap a) (others : IsItems depth vs rest) :
    IsItems depth (v :: vs) (b ++ (cs ++ (a ++ ',' :: rest)))

inductive IsAssignments : (depth : Nat) → List (Path × String × Value) → List Char → Prop
  | last {depth : Nat} {path : Path} {key : String} {v : Value} {k b cs a : List Char}
    (isKey : IsKeyAt path key k) (before : IsWs b) (value : IsValue depth v cs) (after : IsWs a) :
    IsAssignments depth [(path, key, v)] (k ++ '=' :: (b ++ (cs ++ (a ++ ['\x7d']))))
  | cons {depth : Nat} {path : Path} {key : String} {v : Value}
    {others : List (Path × String × Value)} {k b cs a rest : List Char} (isKey : IsKeyAt path key k)
    (before : IsWs b) (value : IsValue depth v cs) (after : IsWs a)
    (more : IsAssignments depth others rest) :
    IsAssignments depth ((path, key, v) :: others) (k ++ '=' :: (b ++ (cs ++ (a ++ ',' :: rest))))

end

theorem skipWs_append {w : List Char} (blanks : IsWs w) (cs : List Char) : skipWs (w ++ cs) = skipWs cs :=
  List.dropWhile_append_of_pos blanks

theorem skipWs_cons {c : Char} (other : isWs c = false) (cs : List Char) : skipWs (c :: cs) = c :: cs := by
  simp [skipWs, other]

section Keys

variable {cs rest : List Char}

theorem isWs_of_isBareKey {c : Char} (bare : isBareKey c = true) : isWs c = false := by
  cases blank : isWs c with
  | false => rfl
  | true =>
    simp only [isWs, Bool.or_eq_true, beq_iff_eq] at blank
    rcases blank with rfl | rfl <;> cases bare

def isKeyStart (c : Char) : Bool := isBareKey c || c == '"' || c == '\''

theorem IsKeyPart.head {part : String} (isPart : IsKeyPart part cs) :
    ∃ c tail, cs = c :: tail ∧ isKeyStart c = true := by
  cases isPart with
  | bare nonempty bare =>
    obtain ⟨c, tail, rfl⟩ := List.exists_cons_of_ne_nil nonempty
    exact ⟨c, tail, rfl, by simp [isKeyStart, bare]⟩
  | quoted text =>
    obtain ⟨isMark, -⟩ := text
    exact ⟨_, _, rfl, by cases isMark <;> rfl⟩

theorem isWs_of_isKeyStart {c : Char} (start : isKeyStart c = true) : isWs c = false := by
  simp only [isKeyStart, Bool.or_eq_true, beq_iff_eq] at start
  rcases start with (bare | rfl) | rfl
  · exact isWs_of_isBareKey bare
  · rfl
  · rfl

theorem simpleKey?_part {part : String} (isPart : IsKeyPart part cs)
    (stops : ∀ c ∈ rest.head?, isBareKey c = false) : simpleKey? (cs ++ rest) = some (part, rest) := by
  cases isPart with
  | bare nonempty bare =>
    have taken : (cs ++ rest).takeWhile isBareKey = cs := by
      rw [List.takeWhile_append_of_pos bare]
      cases rest with
      | nil => simp
      | cons c rest => simp [stops c rfl]
    have dropped : (cs ++ rest).dropWhile isBareKey = rest := by
      rw [List.dropWhile_append_of_pos bare]
      cases rest with
      | nil => rfl
      | cons c rest => simp [stops c rfl]
    obtain ⟨c, tail, rfl⟩ := List.exists_cons_of_ne_nil nonempty
    unfold simpleKey?
    split
    · next same =>
      obtain rfl := (List.cons.inj same).1
      exact absurd (bare '"' List.mem_cons_self) nofun
    · next same =>
      obtain rfl := (List.cons.inj same).1
      exact absurd (bare '\'' List.mem_cons_self) nofun
    · rw [taken, dropped]
  | quoted text =>
    obtain ⟨isMark, spelled⟩ := text
    have read := lineQuotation?_spelled isMark spelled rest
    rw [String.ofList_toList] at read
    rw [List.cons_append, List.append_assoc, List.singleton_append, ← read]
    cases isMark <;> rfl

def EndsKey (rest : List Char) : Prop := ∀ c ∈ rest.head?, c = '=' ∨ c = ']'

theorem endsKey_equals (tail : List Char) : EndsKey ('=' :: tail) := by
  rintro _ ⟨⟩
  exact .inl rfl

theorem endsKey_bracket (tail : List Char) : EndsKey (']' :: tail) := by
  rintro _ ⟨⟩
  exact .inr rfl

theorem keyParts?_key {parts : List String} {n : Nat} (isKey : IsKey parts cs) (few : parts.length ≤ n)
    (ends : EndsKey rest) : keyParts? n (cs ++ rest) = some (parts, rest) := by
  have stops {a tail : List Char} (blanks : IsWs a) (others : ∀ c ∈ tail.head?, isBareKey c = false) :
      ∀ c ∈ (a ++ tail).head?, isBareKey c = false := by
    cases a with
    | nil => exact others
    | cons c a =>
      rintro _ ⟨⟩
      by_contra bare
      exact absurd ((isWs_of_isBareKey (Bool.of_not_eq_false bare)).symm.trans
        (blanks c List.mem_cons_self)) nofun
  have front {part : String} {b cs : List Char} (before : IsWs b) (isPart : IsKeyPart part cs)
      (tail : List Char) : skipWs (b ++ (cs ++ tail)) = cs ++ tail := by
    obtain ⟨c, others, rfl, start⟩ := isPart.head
    rw [skipWs_append before, List.cons_append, skipWs_cons (isWs_of_isKeyStart start)]
  induction isKey generalizing n with
  | last before isPart after =>
    obtain ⟨n, rfl⟩ := Nat.exists_eq_add_of_le' few
    have shown : skipWs rest = rest := by
      cases rest with
      | nil => rfl
      | cons c rest => rcases ends c rfl with rfl | rfl <;> rfl
    have plain : ∀ c ∈ rest.head?, isBareKey c = false := by
      intro c member
      rcases ends c member with rfl | rfl <;> rfl
    rw [List.append_assoc, List.append_assoc, List.length_singleton, keyParts?,
      front before isPart, simpleKey?_part isPart (stops after plain), Option.bind_some]
    simp only [skipWs_append after, shown]
    split
    · next point => rcases ends '.' (by simp) with same | same <;> cases same
    · rfl
  | @next part parts b cs a others before isPart after _ ih =>
    obtain ⟨n, rfl⟩ := Nat.exists_eq_add_of_le' few
    have dot : ∀ c ∈ ('.' :: (others ++ rest)).head?, isBareKey c = false := by
      rintro _ ⟨⟩
      rfl
    have text : b ++ (cs ++ (a ++ '.' :: others)) ++ rest =
        b ++ (cs ++ (a ++ '.' :: (others ++ rest))) := by simp
    rw [text, List.length_cons, ← Nat.add_assoc, keyParts?, front before isPart,
      simpleKey?_part isPart (stops after dot), Option.bind_some]
    simp only [skipWs_append after, skipWs_cons (c := '.') rfl]
    rw [ih (Nat.le_add_left _ _)]
    rfl

theorem key?_key {path : Path} {key : String} (isKey : IsKeyAt path key cs) (ends : EndsKey rest) :
    key? (cs ++ rest) = some ((path, key), rest) := by
  have few : (path ++ [key]).length ≤ depthLimit - 1 := by
    have := isKey.parts
    rw [List.length_append, List.length_singleton]
    omega
  rw [key?, keyParts?_key isKey.isKey few ends, Option.bind_some]
  simp

theorem IsKey.head {parts : List String} (isKey : IsKey parts cs) :
    ∃ b c tail, IsWs b ∧ cs = b ++ c :: tail ∧ isKeyStart c = true ∧ IsKey parts (c :: tail) := by
  have noBlanks : IsWs [] := nofun
  cases isKey with
  | last before isPart after =>
    have bare := IsKey.last noBlanks isPart after
    obtain ⟨c, tail, rfl, start⟩ := isPart.head
    exact ⟨_, c, _, before, rfl, start, bare⟩
  | next before isPart after others =>
    have bare := IsKey.next noBlanks isPart after others
    obtain ⟨c, tail, rfl, start⟩ := isPart.head
    exact ⟨_, c, _, before, rfl, start, bare⟩

end Keys

section Gaps

variable {g rest : List Char}

def Solid (cs : List Char) : Prop :=
  ∃ c tail, cs = c :: tail ∧ isWs c = false ∧ c ≠ '\n' ∧ c ≠ '\r' ∧ c ≠ '#'

theorem skipLines_solid (n : Nat) (solid : Solid rest) : skipLines (n + 1) rest = rest := by
  obtain ⟨c, tail, rfl, blank, feed, carriage, hash⟩ := solid
  have noNewline : newline? (c :: tail) = none :=
    newline?_eq_none (by rintro _ ⟨⟩; exact ⟨feed, carriage⟩)
  rw [skipLines, skipWs_cons blank, noNewline]
  split
  · next same => cases same
  · next same => exact absurd (List.cons.inj same).1 hash
  · rfl

theorem skipLines_blank (n : Nat) {c : Char} (blank : isWs c = true) (cs : List Char) :
    skipLines (n + 1) (c :: cs) = skipLines (n + 1) cs := by
  have skipped : skipWs (c :: cs) = skipWs cs := by simp [skipWs, blank]
  rw [skipLines, skipLines, skipped]

theorem skipLines_newline (n : Nat) {e : List Char} (newline : IsNewline e) (cs : List Char) :
    skipLines (n + 1) (e ++ cs) = skipLines n cs := by
  cases newline <;> rfl

theorem skipLines_comment (n : Nat) {text e : List Char} (plain : ∀ c ∈ text, isPlain c = true)
    (newline : IsNewline e) (cs : List Char) :
    skipLines (n + 1) ('#' :: (text ++ (e ++ cs))) = skipLines n cs := by
  have dropped : (text ++ (e ++ cs)).dropWhile isPlain = e ++ cs := by
    rw [List.dropWhile_append_of_pos plain]
    cases newline <;> rfl
  have mark : skipWs ('#' :: (text ++ (e ++ cs))) = '#' :: (text ++ (e ++ cs)) := rfl
  have noNewline : newline? ('#' :: (text ++ (e ++ cs))) = none := rfl
  rw [skipLines, mark, noNewline]
  simp only [dropped, newline?_append newline]

theorem skipLines_gap {n : Nat} (gap : IsGap g) (solid : Solid rest) (enough : g.length < n) :
    skipLines n (g ++ rest) = rest := by
  induction gap generalizing n with
  | nil =>
    obtain ⟨n, rfl⟩ := Nat.exists_eq_add_of_lt enough
    exact skipLines_solid _ solid
  | @blank c cs blank _ ih =>
    obtain ⟨n, rfl⟩ := Nat.exists_eq_succ_of_ne_zero (Nat.ne_zero_of_lt enough)
    have shorter : cs.length < n + 1 := by
      rw [List.length_cons] at enough
      omega
    rw [List.cons_append, Nat.succ_eq_add_one, skipLines_blank n blank, ih shorter]
  | @newline e cs newline _ ih =>
    obtain ⟨n, rfl⟩ := Nat.exists_eq_succ_of_ne_zero (Nat.ne_zero_of_lt enough)
    have shorter : cs.length < n := by
      have positive : 0 < e.length := by cases newline <;> decide
      rw [List.length_append] at enough
      omega
    rw [List.append_assoc, Nat.succ_eq_add_one, skipLines_newline n newline, ih shorter]
  | @comment text e cs plain newline _ ih =>
    obtain ⟨n, rfl⟩ := Nat.exists_eq_succ_of_ne_zero (Nat.ne_zero_of_lt enough)
    have shorter : cs.length < n := by
      rw [List.length_cons, List.length_append, List.length_append] at enough
      omega
    rw [List.cons_append, List.append_assoc, List.append_assoc, Nat.succ_eq_add_one,
      skipLines_comment n plain newline, ih shorter]

theorem Ends.cons {c : Char} (delimiter : c ∈ delimiters) (tail : List Char) : Ends (c :: tail) := by
  have blanks : delimiters.all (fun c => isWs c == false) = true := by decide
  have other : isWs c = false := beq_iff_eq.mp (List.all_eq_true.mp blanks c delimiter)
  intro d first
  rw [skipWs_cons other] at first
  cases first
  exact delimiter

theorem Ends.append {w cs : List Char} (blanks : IsWs w) (ends : Ends cs) : Ends (w ++ cs) := by
  intro c first
  rw [skipWs_append blanks] at first
  exact ends c first

theorem ends_newline {e : List Char} (newline : IsNewline e) (tail : List Char) : Ends (e ++ tail) := by
  cases newline with
  | feed => exact .cons (by decide) tail
  | pair => exact .cons (by decide) _

theorem IsGap.ends (gap : IsGap g) {c : Char} (delimiter : c ∈ delimiters) (tail : List Char) :
    Ends (g ++ c :: tail) := by
  induction gap with
  | nil => exact .cons delimiter tail
  | @blank d cs blank _ ih =>
    have single : IsWs [d] := by simpa [IsWs] using blank
    exact Ends.append (w := [d]) single ih
  | newline newline =>
    rw [List.append_assoc]
    exact ends_newline newline _
  | comment => exact .cons (by decide) _

end Gaps

theorem IsWord.fits {v : Value} {cs : List Char} (word : IsWord v cs) : v.Fits := by
  cases word <;> (rintro _ ⟨⟩)

theorem IsWord.head {v : Value} {cs : List Char} (word : IsWord v cs) :
    ∃ c tail, cs = c :: tail ∧ isWordStart c = true := by
  cases word with
  | yes => exact ⟨_, _, rfl, by decide⟩
  | no => exact ⟨_, _, rfl, by decide⟩
  | float float =>
    obtain ⟨c, tail, text, start, -⟩ := float.head
    exact ⟨c, tail, text, start⟩
  | moment moment =>
    obtain ⟨c, tail, text, start, -⟩ := moment.head
    exact ⟨c, tail, text, start⟩

def isValueStart (c : Char) : Bool :=
  isWordStart c || c == '"' || c == '\'' || c == '[' || c == '\x7b'

theorem IsValue.head {depth : Nat} {v : Value} {cs : List Char} (value : IsValue depth v cs) :
    ∃ c tail, cs = c :: tail ∧ isValueStart c = true := by
  have word (front : ∃ c tail, cs = c :: tail ∧ isWordStart c = true) :
      ∃ c tail, cs = c :: tail ∧ isValueStart c = true := by
    obtain ⟨c, tail, text, start⟩ := front
    exact ⟨c, tail, text, by simp [isValueStart, start]⟩
  cases value with
  | text text =>
    cases text with
    | line text =>
      obtain ⟨isMark, -⟩ := text
      exact ⟨_, _, rfl, by cases isMark <;> decide⟩
    | block isMark => exact ⟨_, _, rfl, by cases isMark <;> decide⟩
  | word isWord => exact word isWord.head
  | integer integer =>
    obtain ⟨c, tail, text, start, -⟩ := integer.head
    exact word ⟨c, tail, text, start⟩
  | array => exact ⟨_, _, rfl, by decide⟩
  | empty => exact ⟨_, _, rfl, by decide⟩
  | table => exact ⟨_, _, rfl, by decide⟩

theorem ne_of_isValueStart {c d : Char} (start : isValueStart c = true) (other : isValueStart d = false) :
    c ≠ d := by
  rintro rfl
  exact absurd (start.symm.trans other) nofun

theorem solid_of_isValueStart {c : Char} (start : isValueStart c = true) (tail : List Char) :
    Solid (c :: tail) := by
  have space : c ≠ ' ' := ne_of_isValueStart start (by decide)
  have tab : c ≠ '\t' := ne_of_isValueStart start (by decide)
  exact ⟨c, tail, rfl, by simp [isWs, space, tab], ne_of_isValueStart start (by decide),
    ne_of_isValueStart start (by decide), ne_of_isValueStart start (by decide)⟩

section Readers

variable {depth fuel : Nat} {rest : List Char}

theorem value?_of_head {c : Char} (tail : List Char) (array : c ≠ '[') (table : c ≠ '\x7b') :
    value? (fuel + 1) depth (c :: tail) =
      ((quotation? (c :: tail)).map fun read => (.text read.1, read.2)).or (word? (c :: tail)) := by
  rw [value?]
  · cases quotation? (c :: tail) <;> rfl
  · exact fun _ same => absurd (List.cons.inj same).1 array
  · exact fun _ same => absurd (List.cons.inj same).1 table

theorem quotation?_eq_none {c : Char} (tail : List Char) (basic : c ≠ '"') (literal : c ≠ '\'') :
    quotation? (c :: tail) = none := by
  unfold quotation?
  split
  · next same => exact absurd (List.cons.inj same).1 basic
  · next same => exact absurd (List.cons.inj same).1 literal
  · next same => exact absurd (List.cons.inj same).1 basic
  · next same => exact absurd (List.cons.inj same).1 literal
  · rfl

theorem value?_of_isWordStart {c : Char} (tail : List Char) (start : isWordStart c = true) :
    value? (fuel + 1) depth (c :: tail) = word? (c :: tail) := by
  have other {d : Char} (notStart : isWordStart d = false) : c ≠ d := by
    rintro rfl
    exact absurd (start.symm.trans notStart) nofun
  rw [value?_of_head tail (other (by decide)) (other (by decide)),
    quotation?_eq_none tail (other (by decide)) (other (by decide)), Option.map_none, Option.none_or]

theorem value?_text {s : String} {cs : List Char} (text : IsText s cs) (ends : Ends rest) :
    value? (fuel + 1) depth (cs ++ rest) = some (.text s, rest) := by
  have noMark : ∀ c ∈ rest.head?, ¬IsMark c := by
    intro c member isMark
    have first := ends.head c member
    cases isMark <;> exact absurd first (by decide)
  have read := quotation?_text text noMark
  obtain ⟨mark, tail, rfl, isMark⟩ : ∃ mark tail, cs = mark :: tail ∧ IsMark mark := by
    cases text with
    | line text =>
      obtain ⟨isMark, -⟩ := text
      exact ⟨_, _, rfl, isMark⟩
    | block isMark => exact ⟨_, _, rfl, isMark⟩
  rw [List.cons_append] at read ⊢
  rw [value?_of_head _ (by cases isMark <;> decide) (by cases isMark <;> decide), read]
  rfl

theorem value?_word {v : Value} {cs : List Char} (word : IsWord v cs) (ends : Ends rest) :
    value? (fuel + 1) depth (cs ++ rest) = some (v, rest) := by
  have read := word?_word word ends
  obtain ⟨c, tail, rfl, start⟩ := word.head
  rw [List.cons_append] at read ⊢
  rw [value?_of_isWordStart _ start, read]

theorem value?_integer {i : Int} {cs : List Char} (integer : IsInteger i cs) (ends : Ends rest) :
    value? (fuel + 1) depth (cs ++ rest) = (inInt64 i).map fun i => (.integer i, rest) := by
  have read := word?_integer integer ends
  obtain ⟨c, tail, rfl, start, -⟩ := integer.head
  rw [List.cons_append] at read ⊢
  rw [value?_of_isWordStart _ start, read]

/-- What a reader makes of a text: its content, or nothing if an integer in it is too large. -/
structure Takes {α : Type} (fits : Prop) (read : Option α) (content : α) : Prop where
  taken : fits → read = some content
  refused : ¬fits → read = none

namespace Takes

variable {α β : Type} {fits more : Prop} {read : Option α} {a : α} {b : β}

theorem of_eq (all : fits) (taken : read = some a) : Takes fits read a :=
  ⟨fun _ => taken, fun large => absurd all large⟩

theorem congr (takes : Takes fits read a) (same : more ↔ fits) : Takes more read a :=
  ⟨takes.taken ∘ same.mp, fun large => takes.refused (large ∘ same.mpr)⟩

theorem map (takes : Takes fits read a) (f : α → β) : Takes fits (read.map f) (f a) where
  taken all := by rw [takes.taken all, Option.map_some]
  refused large := by rw [takes.refused large, Option.map_none]

theorem bind {next : α → Option β} (takes : Takes fits read a) (others : Takes more (next a) b) :
    Takes (fits ∧ more) (read.bind next) b where
  taken all := by rw [takes.taken all.1, Option.bind_some, others.taken all.2]
  refused large := by
    by_cases here : fits
    · rw [takes.taken here, Option.bind_some, others.refused fun all => large ⟨here, all⟩]
    · rw [takes.refused here, Option.bind_none]

end Takes

theorem inInt64_takes (i : Int) : Takes (FitsInt64 i) (inInt64 i) i :=
  ⟨fun fits => if_pos fits, fun large => if_neg large⟩

/-- With so much fuel the readers take every text that needs no more. -/
structure Reads (fuel : Nat) : Prop where
  value {depth : Nat} {v : Value} {cs rest : List Char} (value : IsValue depth v cs)
    (enough : 2 * cs.length ≤ fuel) (ends : Ends rest) : Takes v.Fits (value? fuel depth (cs ++ rest)) (v, rest)
  items {depth : Nat} {vs : List Value} {cs : List Char} (isItems : IsItems depth vs cs)
    (enough : 2 * cs.length < fuel) (rest : List Char) :
    Takes (∀ v ∈ vs, v.Fits) (items? fuel depth (cs ++ rest)) (vs, rest)
  assignments {depth : Nat} {assignments : List (Path × String × Value)} {cs : List Char}
    (listed : IsAssignments depth assignments cs) (enough : 2 * cs.length < fuel) (rest : List Char) :
    Takes (∀ a ∈ assignments, a.2.2.Fits) (assignments? fuel depth (cs ++ rest)) (assignments, rest)

theorem IsAssignments.head {assignments : List (Path × String × Value)} {cs : List Char}
    (listed : IsAssignments depth assignments cs) :
    ∃ b c tail, IsWs b ∧ cs = b ++ c :: tail ∧ isKeyStart c = true := by
  cases listed with
  | last isKey =>
    obtain ⟨b, c, tail, blanks, rfl, start, -⟩ := isKey.isKey.head
    exact ⟨b, c, _, blanks, by rw [List.append_assoc]; rfl, start⟩
  | cons isKey =>
    obtain ⟨b, c, tail, blanks, rfl, start, -⟩ := isKey.isKey.head
    exact ⟨b, c, _, blanks, by rw [List.append_assoc]; rfl, start⟩

theorem Reads.value_next (reads : Reads fuel) {v : Value} {cs : List Char} (value : IsValue depth v cs)
    (enough : 2 * cs.length ≤ fuel + 1) (ends : Ends rest) :
    Takes v.Fits (value? (fuel + 1) depth (cs ++ rest)) (v, rest) := by
  cases value with
  | text text => exact .of_eq (by rintro _ ⟨⟩) (value?_text text ends)
  | word word => exact .of_eq word.fits (value?_word word ends)
  | integer integer =>
    rw [value?_integer integer ends]
    exact ((inInt64_takes _).map _).congr Value.fits_integer
  | array shallow isItems =>
    rw [List.length_cons] at enough
    rw [List.cons_append, value?, if_pos shallow]
    exact ((reads.items isItems (by omega) rest).map _).congr Value.fits_array
  | @empty _ w shallow blanks =>
    have closed : skipWs (w ++ ['\x7d'] ++ rest) = '\x7d' :: rest := by
      rw [List.append_assoc, skipWs_append blanks]
      rfl
    refine .of_eq (Value.fits_table.mpr nofun) ?_
    rw [List.cons_append, value?, if_pos shallow, closed]
    rfl
  | @table _ assignments _ cs shallow listed described =>
    rw [List.length_cons] at enough
    have read := reads.assignments listed (by omega) rest
    obtain ⟨b, c, tail, blanks, rfl, start⟩ := listed.head
    have front : skipWs (b ++ c :: tail ++ rest) = c :: (tail ++ rest) := by
      rw [List.append_assoc, skipWs_append blanks, List.cons_append, skipWs_cons (isWs_of_isKeyStart start)]
    have notClosed : c ≠ '\x7d' := by
      rintro rfl
      cases start
    rw [List.cons_append, value?, if_pos shallow, front]
    split
    · next same => exact absurd (List.cons.inj same).1 notClosed
    · refine (read.bind (.of_eq trivial ?_)).congr (by rw [fits_inlineTable described, and_true])
      simp only [described, Option.map_some]

theorem Reads.item (reads : Reads fuel) {v : Value} {b cs a : List Char} {c : Char} (before : IsGap b)
    (value : IsValue depth v cs) (after : IsGap a) (enough : 2 * cs.length ≤ fuel) (delimiter : c = ',' ∨ c = ']')
    {tail : List Char} {more : Prop} {items : List Value × List Char}
    (others : Takes more
      (match c :: tail with
      | ']' :: rest => some ([v], rest)
      | ',' :: rest => (items? fuel depth rest).map fun read => (v :: read.1, read.2)
      | _ => none) items) :
    Takes (v.Fits ∧ more) (items? (fuel + 1) depth (b ++ (cs ++ (a ++ c :: tail)))) items := by
  have last : c ∈ delimiters := by rcases delimiter with rfl | rfl <;> decide
  have solid : Solid (c :: tail) := ⟨c, tail, rfl, by rcases delimiter with rfl | rfl <;> decide⟩
  have read := reads.value value enough (after.ends last tail)
  have closed : skipLines (a ++ c :: tail).length (a ++ c :: tail) = c :: tail :=
    skipLines_gap after solid (by simp)
  obtain ⟨first, rest, rfl, start⟩ := value.head
  have skipped : skipLines (b ++ (first :: rest ++ (a ++ c :: tail))).length
      (b ++ (first :: rest ++ (a ++ c :: tail))) = first :: rest ++ (a ++ c :: tail) :=
    skipLines_gap before (solid_of_isValueStart start _) (by simp)
  rw [items?, skipped]
  split
  · next same => exact absurd (List.cons.inj same).1 (ne_of_isValueStart start (by decide))
  · refine read.bind ?_
    dsimp only
    rw [closed]
    exact others

theorem Reads.items_next (reads : Reads fuel) {vs : List Value} {cs : List Char} (isItems : IsItems depth vs cs)
    (enough : 2 * cs.length < fuel + 1) :
    Takes (∀ v ∈ vs, v.Fits) (items? (fuel + 1) depth (cs ++ rest)) (vs, rest) := by
  cases isItems with
  | @nil _ g gap =>
    have closed : skipLines (g ++ [']'] ++ rest).length (g ++ [']'] ++ rest) = ']' :: rest := by
      rw [List.append_assoc]
      exact skipLines_gap gap ⟨']', rest, rfl, by decide⟩ (by simp)
    refine .of_eq nofun ?_
    rw [items?, closed]
    rfl
  | @last _ v b cs a before value after =>
    simp only [List.length_append, List.length_singleton] at enough
    have text : b ++ (cs ++ (a ++ [']'])) ++ rest = b ++ (cs ++ (a ++ ']' :: rest)) := by simp
    rw [text]
    exact (reads.item before value after (by omega) (by decide) (.of_eq trivial rfl)).congr (by simp)
  | @cons _ v vs b cs a others before value after more =>
    simp only [List.length_append, List.length_cons] at enough
    have text : b ++ (cs ++ (a ++ ',' :: others)) ++ rest = b ++ (cs ++ (a ++ ',' :: (others ++ rest))) := by
      simp
    rw [text]
    have later := (reads.items more (by omega) rest).map fun read => (v :: read.1, read.2)
    exact (reads.item before value after (by omega) (by decide) later).congr (by simp)

theorem Reads.assignment (reads : Reads fuel) {path : Path} {key : String} {v : Value} {k b cs a : List Char}
    {c : Char} (isKey : IsKeyAt path key k) (before : IsWs b) (value : IsValue depth v cs) (after : IsWs a)
    (enough : 2 * cs.length ≤ fuel) (delimiter : c = ',' ∨ c = '\x7d') {tail : List Char} {more : Prop}
    {assignments : List (Path × String × Value) × List Char}
    (others : Takes more
      (match c :: tail with
      | '\x7d' :: rest => some ([(path, key, v)], rest)
      | ',' :: rest => (assignments? fuel depth rest).map fun read => ((path, key, v) :: read.1, read.2)
      | _ => none) assignments) :
    Takes (v.Fits ∧ more) (assignments? (fuel + 1) depth (k ++ '=' :: (b ++ (cs ++ (a ++ c :: tail)))))
      assignments := by
  have last : c ∈ delimiters := by rcases delimiter with rfl | rfl <;> decide
  have blank : isWs c = false := by rcases delimiter with rfl | rfl <;> rfl
  have named := key?_key isKey (endsKey_equals (b ++ (cs ++ (a ++ c :: tail))))
  have read := reads.value value enough (Ends.append after (.cons last tail))
  have closed : skipWs (a ++ c :: tail) = c :: tail := by
    rw [skipWs_append after, skipWs_cons blank]
  obtain ⟨first, rest, rfl, start⟩ := value.head
  obtain ⟨_, _, same, space, -⟩ := solid_of_isValueStart start (rest ++ (a ++ c :: tail))
  have front : skipWs (b ++ (first :: rest ++ (a ++ c :: tail))) = first :: rest ++ (a ++ c :: tail) := by
    rw [skipWs_append before, List.cons_append, same, skipWs_cons space]
  rw [assignments?, named]
  simp only [front]
  refine read.bind ?_
  rw [closed]
  exact others

theorem Reads.assignments_next (reads : Reads fuel) {assignments : List (Path × String × Value)} {cs : List Char}
    (listed : IsAssignments depth assignments cs) (enough : 2 * cs.length < fuel + 1) :
    Takes (∀ a ∈ assignments, a.2.2.Fits) (assignments? (fuel + 1) depth (cs ++ rest)) (assignments, rest) := by
  cases listed with
  | @last _ path key v k b cs a isKey before value after =>
    simp only [List.length_append, List.length_cons] at enough
    have text : k ++ '=' :: (b ++ (cs ++ (a ++ ['\x7d']))) ++ rest =
        k ++ '=' :: (b ++ (cs ++ (a ++ '\x7d' :: rest))) := by simp
    rw [text]
    exact (reads.assignment isKey before value after (by omega) (by decide) (.of_eq trivial rfl)).congr (by simp)
  | @cons _ path key v others k b cs a tail isKey before value after more =>
    simp only [List.length_append, List.length_cons] at enough
    have text : k ++ '=' :: (b ++ (cs ++ (a ++ ',' :: tail))) ++ rest =
        k ++ '=' :: (b ++ (cs ++ (a ++ ',' :: (tail ++ rest)))) := by simp
    rw [text]
    have later := (reads.assignments more (by omega) rest).map fun read => ((path, key, v) :: read.1, read.2)
    exact (reads.assignment isKey before value after (by omega) (by decide) later).congr (by simp)

end Readers

/-- Twice the length of a text is fuel enough for it. -/
theorem reads (fuel : Nat) : Reads fuel := by
  -- a container takes a character and a step, and what is inside it can be read with what is left
  induction fuel with
  | zero =>
    refine ⟨fun value enough => ?_, fun _ enough => absurd enough (Nat.not_lt_zero _),
      fun _ enough => absurd enough (Nat.not_lt_zero _)⟩
    obtain ⟨c, tail, rfl, -⟩ := value.head
    simp at enough
  | succ fuel ih =>
    exact ⟨fun value enough ends => ih.value_next value enough ends,
      fun isItems enough _ => ih.items_next isItems enough,
      fun listed enough _ => ih.assignments_next listed enough⟩

end GatewayLink.Toml
