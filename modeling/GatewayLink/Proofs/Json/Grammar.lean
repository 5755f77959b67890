import GatewayLink.Proofs.Json.Document

/-! The texts that are JSON documents.
`Laid` tells which texts consist of given lexemes, `Spelled` which texts stand for the characters of a string,
and `IsDocument` which octets are a document. The scanner accepts these texts and no others: at every place
it stands, what remains to be read completes the lexemes that it will have found. -/

namespace GatewayLink.Json

open Text

def hexValue? (value : Nat) : List Char → Option Nat
  | [] => some value
  | c :: rest => (hexDigit? c).bind fun d => hexValue? (16 * value + d) rest

def CodeUnit (unit : Nat) (ds : List Char) : Prop := ds.length = 4 ∧ hexValue? 0 ds = some unit

def IsHigh (unit : Nat) : Prop := 0xd800 ≤ unit ∧ unit < 0xdc00

def IsLow (unit : Nat) : Prop := 0xdc00 ≤ unit ∧ unit < 0xe000

/-- A text between quotes that stands for given characters. -/
inductive Spelled : List Char → List Char → Prop
  | nil : Spelled [] []
  | plain {c : Char} {s cs : List Char} (quote : c ≠ '"') (slash : c ≠ '\\')
    (control : ¬c.toNat < 0x20) (rest : Spelled s cs) : Spelled (c :: s) (c :: cs)
  | short {e c : Char} {s cs : List Char} (escape : Scanner.unescape? e = some c)
    (rest : Spelled s cs) : Spelled (c :: s) ('\\' :: e :: cs)
  | unit {u : Nat} {ds s cs : List Char} (digits : CodeUnit u ds) (high : ¬IsHigh u) (low : ¬IsLow u)
    (rest : Spelled s cs) : Spelled (Char.ofNat u :: s) ('\\' :: 'u' :: (ds ++ cs))
  | pair {u w : Nat} {ds es s cs : List Char} (first : CodeUnit u ds) (high : IsHigh u)
    (second : CodeUnit w es) (low : IsLow w) (rest : Spelled s cs) :
    Spelled (Char.ofNat (0x10000 + (u - 0xd800) * 0x400 + (w - 0xdc00)) :: s)
      ('\\' :: 'u' :: (ds ++ '\\' :: 'u' :: (es ++ cs)))

/-- A text that consists of given lexemes. Blanks may stand around each; a bare word ends where a blank, a
mark or a quote follows. -/
inductive Laid : List Lexeme → List Char → Prop
  | nil : Laid [] []
  | blank {c : Char} {ls : List Lexeme} {cs : List Char} (space : Lexeme.isSpace c = true)
    (rest : Laid ls cs) : Laid ls (c :: cs)
  | mark {c : Char} {l : Lexeme} {ls : List Lexeme} {cs : List Char}
    (marks : Lexeme.punctuation? c = some l) (rest : Laid ls cs) : Laid (l :: ls) (c :: cs)
  | text {s body : List Char} {ls : List Lexeme} {cs : List Char} (spelled : Spelled s body)
    (rest : Laid ls cs) : Laid (.text (String.ofList s) :: ls) ('"' :: (body ++ '"' :: cs))
  | word {word : List Char} {l : Lexeme} {ls : List Lexeme} {cs : List Char} (isWord : IsWord word)
    (read : Lexeme.ofWord? word = some l) (ends : ∀ c ∈ cs.head?, Scanner.endsWord c = true)
    (rest : Laid ls cs) : Laid (l :: ls) (word ++ cs)

/-- The octets are UTF-8 of a text that consists of the lexemes of a value. -/
def IsDocument (octets : List UInt8) (v : Json) : Prop :=
  v.depth ≤ maxDepth ∧ ∃ cs, octets = octetsOfText (String.ofList cs) ∧ Laid v.lexemes cs

namespace Scanner

variable {done : List Lexeme} {read : List Char}

theorem run_unit {high : Option Nat} {digits value u : Nat} {ds : List Char}
    (length : ds.length + digits = 4) (nonempty : ds ≠ []) (total : hexValue? value ds = some u) :
    run ⟨done, .unit read high digits value⟩ ds =
      (endUnit read high u).map fun place => ⟨done, place⟩ := by
  induction ds generalizing digits value with
  | nil => exact absurd rfl nonempty
  | cons c rest ih =>
    obtain ⟨d, digit, total⟩ := Option.bind_eq_some_iff.mp total
    rw [List.length_cons] at length
    simp only [run_cons, step, digit, Option.bind_some]
    cases rest with
    | nil =>
      cases total
      rw [List.length_nil] at length
      rw [if_neg (by omega)]
      cases endUnit read high (16 * value + d) <;> rfl
    | cons next rest =>
      rw [List.length_cons] at length
      rw [if_pos (by omega)]
      exact ih (by rw [List.length_cons]; omega) (List.cons_ne_nil next rest) total

theorem run_codeUnit {high : Option Nat} {u : Nat} {ds : List Char} (digits : CodeUnit u ds) :
    run ⟨done, .unit read high 0 0⟩ ds = (endUnit read high u).map fun place => ⟨done, place⟩ :=
  run_unit digits.1 (List.ne_nil_of_length_pos (by rw [digits.1]; decide)) digits.2

theorem run_spelled {s body : List Char} (spelled : Spelled s body) (read : List Char) :
    run ⟨done, .string read⟩ body = some ⟨done, .string (s.reverse ++ read)⟩ := by
  induction spelled generalizing read with
  | nil => rfl
  | plain quote slash control _ ih =>
    simp only [run_cons, step, quote, slash, control, if_false, Option.bind_some, ih]
    simp
  | @short e c s cs escape _ ih =>
    have started : step ⟨done, .string read⟩ '\\' = some ⟨done, .escape read⟩ := rfl
    have mark : e ≠ 'u' := by
      rintro rfl
      cases escape
    have ended : step ⟨done, .escape read⟩ e = some ⟨done, .string (c :: read)⟩ := by
      simp [step, mark, escape]
    rw [run_cons, started, Option.bind_some, run_cons, ended, Option.bind_some, ih]
    simp
  | @unit u ds s cs digits high low _ ih =>
    have started : run ⟨done, .string read⟩ ['\\', 'u'] = some ⟨done, .unit read none 0 0⟩ := rfl
    have ended : endUnit read none u = some (.string (Char.ofNat u :: read)) :=
      (if_neg high).trans (if_neg low)
    have text : '\\' :: 'u' :: (ds ++ cs) = ['\\', 'u'] ++ (ds ++ cs) := rfl
    rw [text, run_append, started, Option.bind_some, run_append, run_codeUnit digits, ended,
      Option.map_some, Option.bind_some, ih]
    simp
  | @pair u w ds es s cs first high second low _ ih =>
    have started : run ⟨done, .string read⟩ ['\\', 'u'] = some ⟨done, .unit read none 0 0⟩ := rfl
    have half : endUnit read none u = some (.lowMark read u) := if_pos high
    have again : run ⟨done, .lowMark read u⟩ ['\\', 'u'] =
        some ⟨done, .unit read (some u) 0 0⟩ := rfl
    have ended : endUnit read (some u) w = some (.string
        (Char.ofNat (0x10000 + (u - 0xd800) * 0x400 + (w - 0xdc00)) :: read)) := if_pos low
    have text : '\\' :: 'u' :: (ds ++ '\\' :: 'u' :: (es ++ cs)) =
        ['\\', 'u'] ++ (ds ++ (['\\', 'u'] ++ (es ++ cs))) := rfl
    rw [text, run_append, started, Option.bind_some, run_append, run_codeUnit first, half,
      Option.map_some, Option.bind_some, run_append, again, Option.bind_some, run_append,
      run_codeUnit second, ended, Option.map_some, Option.bind_some, ih]
    simp

theorem scanFrom_laid {ls : List Lexeme} {cs : List Char} (laid : Laid ls cs) (done : List Lexeme) :
    scanFrom done cs = some (done.reverse ++ ls) := by
  induction laid generalizing done with
  | nil => rw [scanFrom_nil, List.append_nil]
  | blank space _ ih =>
    rw [scanFrom, run_cons, step, enter, if_pos space]
    exact ih done
  | mark marks _ ih => rw [scanFrom_mark done _ marks, ih]; simp
  | @text s body ls cs spelled _ ih =>
    have opened : step ⟨done, .between⟩ '"' = some ⟨done, .string []⟩ := rfl
    have closed : step ⟨done, .string s.reverse⟩ '"' =
        some ⟨.text (String.ofList s) :: done, .between⟩ := by simp [step]
    rw [scanFrom, run_cons, opened, Option.bind_some, run_append, run_spelled spelled,
      Option.bind_some, List.append_nil, run_cons, closed, Option.bind_some]
    exact (ih _).trans (by simp)
  | word isWord read ends _ ih =>
    rw [scanFrom_word done _ isWord ends, read, Option.bind_some, ih]
    simp

def InString (read : List Char) (ls : List Lexeme) (cs : List Char) : Prop :=
  ∃ s body rest tail, cs = body ++ '"' :: tail ∧ Spelled s body ∧
    ls = .text (String.ofList (read.reverse ++ s)) :: rest ∧ Laid rest tail

def PartOfUnit (digits value : Nat) (ds : List Char) : Prop :=
  ds.length = digits ∧ digits < 4 ∧ hexValue? 0 ds = some value

theorem hexValue?_concat {value d : Nat} {c : Char} {ds : List Char} {start : Nat}
    (front : hexValue? start ds = some value) (digit : hexDigit? c = some d) :
    hexValue? start (ds ++ [c]) = some (16 * value + d) := by
  induction ds generalizing start with
  | nil =>
    cases front
    rw [List.nil_append, hexValue?, digit]
    rfl
  | cons first rest ih =>
    obtain ⟨e, here, later⟩ := Option.bind_eq_some_iff.mp front
    rw [List.cons_append, hexValue?, here]
    exact ih later

/-- What remains of a text, read from a place, gives these lexemes. Inside an escape any digits that may have
led there are put back in front. -/
def Awaits : Place → List Lexeme → List Char → Prop
  | .between, ls, cs => Laid ls cs
  | .word read, ls, cs => ∃ word l rest tail, cs = word ++ tail ∧
    (∀ c ∈ word, endsWord c = false) ∧ (∀ c ∈ tail.head?, endsWord c = true) ∧
      Lexeme.ofWord? (read.reverse ++ word) = some l ∧ ls = l :: rest ∧ Laid rest tail
  | .string read, ls, cs => InString read ls cs
  | .escape read, ls, cs => InString read ls ('\\' :: cs)
  | .unit read none digits value, ls, cs => ∀ ds, PartOfUnit digits value ds →
    InString read ls ('\\' :: 'u' :: (ds ++ cs))
  | .unit read (some high) digits value, ls, cs => ∀ first ds, CodeUnit high first → IsHigh high →
    PartOfUnit digits value ds →
      InString read ls ('\\' :: 'u' :: (first ++ '\\' :: 'u' :: (ds ++ cs)))
  | .lowMark read high, ls, cs => ∀ first, CodeUnit high first → IsHigh high →
    InString read ls ('\\' :: 'u' :: (first ++ cs))
  | .lowUnit read high, ls, cs => ∀ first, CodeUnit high first → IsHigh high →
    InString read ls ('\\' :: 'u' :: (first ++ '\\' :: cs))

theorem InString.push {c : Char} (piece : List Char) {ls : List Lexeme} {cs : List Char}
    (spells : ∀ s body, Spelled s body → Spelled (c :: s) (piece ++ body))
    (rest : InString (c :: read) ls cs) : InString read ls (piece ++ cs) := by
  obtain ⟨s, body, ls, tail, rfl, spelled, rfl, laid⟩ := rest
  exact ⟨c :: s, piece ++ body, ls, tail, by simp, spells s body spelled, by simp, laid⟩

theorem enter_cases (done : List Lexeme) (c : Char) :
    (Lexeme.isSpace c = true ∧ enter done c = ⟨done, .between⟩) ∨
      (c = '"' ∧ enter done c = ⟨done, .string []⟩) ∨
      (∃ mark, Lexeme.punctuation? c = some mark ∧ enter done c = ⟨mark :: done, .between⟩) ∨
      (endsWord c = false ∧ enter done c = ⟨done, .word [c]⟩) := by
  by_cases space : Lexeme.isSpace c = true
  · exact .inl ⟨space, if_pos space⟩
  · by_cases quote : c = '"'
    · exact .inr (.inl ⟨quote, (if_neg space).trans (if_pos quote)⟩)
    · cases marks : Lexeme.punctuation? c with
      | some mark => exact .inr (.inr (.inl ⟨mark, rfl, by simp [enter, space, quote, marks]⟩))
      | none =>
        have inside : endsWord c = false := by simp [endsWord, space, quote, marks]
        exact .inr (.inr (.inr ⟨inside, enter_word done inside⟩))

theorem awaits_enter {c : Char} {ls : List Lexeme} {cs : List Char}
    (rest : Awaits (enter done c).place ls cs) :
    ∃ found, (enter done c).done.reverse ++ ls = done.reverse ++ found ∧ Laid found (c :: cs) := by
  rcases enter_cases done c with ⟨space, entered⟩ | ⟨rfl, entered⟩ | ⟨mark, marks, entered⟩ |
      ⟨inside, entered⟩ <;> rw [entered] at rest ⊢
  · exact ⟨ls, rfl, .blank space rest⟩
  · obtain ⟨s, body, rest, tail, rfl, spelled, rfl, laid⟩ := rest
    exact ⟨_, rfl, .text spelled laid⟩
  · exact ⟨mark :: ls, by simp, .mark marks rest⟩
  · obtain ⟨word, l, rest, tail, rfl, others, ends, read, rfl, laid⟩ := rest
    have isWord : IsWord (c :: word) :=
      ⟨List.cons_ne_nil c word, List.forall_mem_cons.mpr ⟨inside, others⟩⟩
    exact ⟨_, rfl, .word isWord read ends laid⟩

theorem PartOfUnit.concat {digits value d : Nat} {c : Char} {ds : List Char}
    (part : PartOfUnit digits value ds) (digit : hexDigit? c = some d) (more : digits < 3) :
    PartOfUnit (digits + 1) (16 * value + d) (ds ++ [c]) :=
  ⟨by rw [List.length_append, part.1]; rfl, by omega, hexValue?_concat part.2.2 digit⟩

theorem PartOfUnit.codeUnit {digits value d : Nat} {c : Char} {ds : List Char}
    (part : PartOfUnit digits value ds) (digit : hexDigit? c = some d) (last : ¬digits < 3) :
    CodeUnit (16 * value + d) (ds ++ [c]) := by
  obtain ⟨length, short, front⟩ := part
  refine ⟨?_, hexValue?_concat front digit⟩
  rw [List.length_append, List.length_singleton]
  omega

theorem awaits_digit {high : Option Nat} {digits value d : Nat} {c : Char} {ls : List Lexeme}
    {cs : List Char} (digit : hexDigit? c = some d) (more : digits < 3)
    (rest : Awaits (.unit read high (digits + 1) (16 * value + d)) ls cs) :
    Awaits (.unit read high digits value) ls (c :: cs) := by
  cases high with
  | none =>
    intro ds part
    simpa using rest _ (part.concat digit more)
  | some high =>
    intro first ds unit isHigh part
    simpa using rest first _ unit isHigh (part.concat digit more)

theorem awaits_endUnit {high : Option Nat} {digits value d : Nat} {c : Char} {place : Place}
    {ls : List Lexeme} {cs : List Char} (digit : hexDigit? c = some d) (last : ¬digits < 3)
    (ended : endUnit read high (16 * value + d) = some place) (rest : Awaits place ls cs) :
    Awaits (.unit read high digits value) ls (c :: cs) := by
  cases high with
  | none =>
    intro ds part
    have unit := part.codeUnit digit last
    unfold endUnit at ended
    dsimp only at ended
    split at ended
    · next isHigh =>
      cases ended
      simpa using rest _ unit isHigh
    · next notHigh =>
      split at ended
      · cases ended
      · next notLow =>
        cases ended
        have spells (s body : List Char) (spelled : Spelled s body) :=
          Spelled.unit unit notHigh notLow spelled
        simpa using rest.push ('\\' :: 'u' :: (ds ++ [c])) (by simpa using spells)
  | some high =>
    intro first ds firstUnit isHigh part
    have unit := part.codeUnit digit last
    unfold endUnit at ended
    dsimp only at ended
    split at ended
    · next isLow =>
      cases ended
      have spells (s body : List Char) (spelled : Spelled s body) :=
        Spelled.pair firstUnit isHigh unit isLow spelled
      simpa using rest.push ('\\' :: 'u' :: (first ++ '\\' :: 'u' :: (ds ++ [c])))
        (by simpa using spells)
    · cases ended

theorem awaits_word {read : List Char} {c : Char} {next : Scanner} {ls : List Lexeme} {cs : List Char}
    (stepped : step ⟨done, .word read⟩ c = some next) (rest : Awaits next.place ls cs) :
    ∃ found, next.done.reverse ++ ls = done.reverse ++ found ∧
      Awaits (.word read) found (c :: cs) := by
  simp only [step] at stepped
  split at stepped
  · next ends =>
    obtain ⟨l, isLexeme, rfl⟩ := Option.map_eq_some_iff.mp stepped
    obtain ⟨found, same, laid⟩ := awaits_enter rest
    refine ⟨l :: found, by rw [same]; simp, [], l, found, c :: cs, rfl, List.forall_mem_nil _, ?_, ?_,
      rfl, laid⟩
    · rintro _ ⟨⟩
      exact ends
    · rwa [List.append_nil]
  · next inside =>
    cases stepped
    obtain ⟨word, l, rest, tail, rfl, others, ends, isLexeme, rfl, laid⟩ := rest
    refine ⟨_, rfl, c :: word, l, rest, tail, rfl, ?_, ends, by simpa using isLexeme, rfl, laid⟩
    exact List.forall_mem_cons.mpr ⟨by simpa using inside, others⟩

theorem awaits_string {read : List Char} {c : Char} {next : Scanner} {ls : List Lexeme}
    {cs : List Char} (stepped : step ⟨done, .string read⟩ c = some next)
    (rest : Awaits next.place ls cs) :
    ∃ found, next.done.reverse ++ ls = done.reverse ++ found ∧
      Awaits (.string read) found (c :: cs) := by
  simp only [step] at stepped
  split at stepped
  · next quote =>
    cases stepped
    subst quote
    exact ⟨.text (String.ofList read.reverse) :: ls, by simp, [], [], ls, cs, rfl, .nil, by simp,
      rest⟩
  · next quote =>
    split at stepped
    · next slash =>
      cases stepped
      subst slash
      exact ⟨ls, rfl, rest⟩
    · next slash =>
      split at stepped
      · cases stepped
      · next control =>
        cases stepped
        exact ⟨ls, rfl, rest.push [c] fun _ _ => .plain quote slash control⟩

theorem awaits_step {place : Place} {c : Char} {next : Scanner} {ls : List Lexeme} {cs : List Char}
    (stepped : step ⟨done, place⟩ c = some next) (rest : Awaits next.place ls cs) :
    ∃ found, next.done.reverse ++ ls = done.reverse ++ found ∧ Awaits place found (c :: cs) := by
  cases place with
  | between =>
    cases stepped
    exact awaits_enter rest
  | word read => exact awaits_word stepped rest
  | string read => exact awaits_string stepped rest
  | escape read =>
    simp only [step] at stepped
    split at stepped
    · next mark =>
      cases stepped
      subst mark
      exact ⟨ls, rfl, rest [] ⟨rfl, by decide, rfl⟩⟩
    · obtain ⟨plain, escape, rfl⟩ := Option.map_eq_some_iff.mp stepped
      exact ⟨ls, rfl, rest.push ['\\', c] fun _ _ => .short escape⟩
  | unit read high digits value =>
    obtain ⟨d, digit, stepped⟩ := Option.bind_eq_some_iff.mp stepped
    split at stepped
    · next more =>
      cases stepped
      exact ⟨ls, rfl, awaits_digit digit more rest⟩
    · next last =>
      obtain ⟨place, ended, rfl⟩ := Option.map_eq_some_iff.mp stepped
      exact ⟨ls, rfl, awaits_endUnit digit last ended rest⟩
  | lowMark read high =>
    simp only [step] at stepped
    split at stepped
    · next slash =>
      cases stepped
      subst slash
      exact ⟨ls, rfl, rest⟩
    · cases stepped
  | lowUnit read high =>
    simp only [step] at stepped
    split at stepped
    · next mark =>
      cases stepped
      subst mark
      exact ⟨ls, rfl, fun first unit isHigh => rest first [] unit isHigh ⟨rfl, by decide, rfl⟩⟩
    · cases stepped

theorem awaits_run {place : Place} {cs : List Char} {last : Scanner} {out : List Lexeme}
    (ran : run ⟨done, place⟩ cs = some last) (finished : last.finish = some out) :
    ∃ found, out = done.reverse ++ found ∧ Awaits place found cs := by
  -- back from the end of the text: what a place awaits is told by the characters still to come
  induction cs generalizing done place with
  | nil =>
    cases ran
    cases place with
    | between =>
      cases finished
      exact ⟨[], by simp, .nil⟩
    | word read =>
      obtain ⟨l, isLexeme, rfl⟩ := Option.map_eq_some_iff.mp finished
      exact ⟨[l], by simp, [], l, [], [], rfl, nofun, nofun, by simpa using isLexeme, rfl, .nil⟩
    | _ => cases finished
  | cons c cs ih =>
    obtain ⟨⟨found, place'⟩, stepped, ran⟩ := Option.bind_eq_some_iff.mp ran
    obtain ⟨ls, rfl, rest⟩ := ih ran
    exact awaits_step stepped rest

end Scanner

/-- The scanner finds exactly the lexemes that a text consists of. -/
theorem scan?_eq_some {cs : List Char} {ls : List Lexeme} :
    Lexeme.scan? cs = some ls ↔ Laid ls cs := by
  constructor
  · intro scanned
    obtain ⟨last, ran, finished⟩ := Option.bind_eq_some_iff.mp scanned
    obtain ⟨found, rfl, laid⟩ := Scanner.awaits_run ran finished
    exact laid
  · exact fun laid => Scanner.scanFrom_laid laid []

/-- A document is parsed to its value, and nothing else is parsed. -/
theorem parse?_eq_some {octets : List UInt8} {v : Json} :
    parse? octets = some v ↔ IsDocument octets v := by
  simp only [parse?, Option.bind_eq_some_iff, charsOfOctets?_eq_some, scan?_eq_some,
    ofLexemes?_eq_some, IsDocument]
  constructor
  · rintro ⟨cs, text, ls, laid, rfl, fits⟩
    exact ⟨fits, cs, text, laid⟩
  · rintro ⟨fits, cs, text, laid⟩
    exact ⟨cs, text, v.lexemes, laid, rfl, fits⟩

end GatewayLink.Json
