import Mathlib.Data.List.Basic
import Mathlib.Tactic.IntervalCases
import GatewayLink.Json.Lexeme
import GatewayLink.Proofs.Text.Digits

/-! Scanning written lexemes.
The scanner cuts a written text where the writer had put its lexemes together, provided that every bare
word is followed by a mark. Strings come back as they were. A bare word is read as a whole, so a number
comes back as whatever its text is read as: `Lexeme.reread?` tells what. -/

namespace GatewayLink.Json

open Text

/-- What the text of a lexeme is read as. Only numbers may change, or be refused. -/
def Lexeme.reread? : Lexeme → Option Lexeme
  | .number n => Lexeme.ofWord? n.text
  | l => some l

def Lexeme.isMark : Lexeme → Bool
  | .beginArray | .endArray | .beginObject | .endObject | .colon | .comma => true
  | _ => false

def Lexeme.Separated : List Lexeme → Prop
  | [] => True
  | .null :: rest => (∀ next ∈ rest.head?, next.isMark = true) ∧ Separated rest
  | .bool _ :: rest => (∀ next ∈ rest.head?, next.isMark = true) ∧ Separated rest
  | .number _ :: rest => (∀ next ∈ rest.head?, next.isMark = true) ∧ Separated rest
  | _ :: rest => Separated rest

def IsWord (cs : List Char) : Prop := cs ≠ [] ∧ ∀ c ∈ cs, Scanner.endsWord c = false

instance (cs : List Char) : Decidable (IsWord cs) :=
  decidable_of_iff (cs.isEmpty = false ∧ (cs.all fun c => !Scanner.endsWord c) = true) (by
    simp [IsWord])

namespace Scanner

def scanFrom (done : List Lexeme) (cs : List Char) : Option (List Lexeme) :=
  (Scanner.run ⟨done, .between⟩ cs).bind finish

variable (done : List Lexeme) (rest : List Char)

theorem run_cons (s : Scanner) (c : Char) : s.run (c :: rest) = (s.step c).bind (·.run rest) := rfl

theorem scanFrom_nil : scanFrom done [] = some done.reverse := rfl

theorem scanFrom_mark {c : Char} {mark : Lexeme} (marks : Lexeme.punctuation? c = some mark) :
    scanFrom done (c :: rest) = scanFrom (mark :: done) rest := by
  have plain : Lexeme.isSpace c = false ∧ c ≠ '"' := by
    unfold Lexeme.punctuation? at marks
    split at marks <;> first | decide | cases marks
  simp [scanFrom, run_cons, step, enter, plain, marks]

theorem enter_word {c : Char} (inside : endsWord c = false) :
    enter done c = ⟨done, .word [c]⟩ := by
  simp only [endsWord, Bool.or_eq_false_iff, beq_eq_false_iff_ne, Option.isSome_eq_false_iff,
    Option.isNone_iff_eq_none] at inside
  simp [enter, inside]

theorem run_word {word : List Char} (inside : ∀ c ∈ word, endsWord c = false) (read : List Char) :
    Scanner.run ⟨done, .word read⟩ word = some ⟨done, .word (word.reverse ++ read)⟩ := by
  induction word generalizing read with
  | nil => rfl
  | cons c word ih =>
    have first := inside c List.mem_cons_self
    rw [run_cons, step]
    simp only [first, Bool.false_eq_true, if_false, Option.bind_some]
    rw [ih fun c member => inside c (List.mem_cons_of_mem _ member)]
    simp

theorem scanFrom_word {word : List Char} (isWord : IsWord word)
    (ends : ∀ c ∈ rest.head?, endsWord c = true) :
    scanFrom done (word ++ rest) =
      (Lexeme.ofWord? word).bind fun l => scanFrom (l :: done) rest := by
  obtain ⟨present, inside⟩ := isWord
  obtain ⟨c, word, rfl⟩ := List.exists_cons_of_ne_nil present
  have entered : Scanner.run ⟨done, .between⟩ (c :: word) =
      some ⟨done, .word (c :: word).reverse⟩ := by
    rw [run_cons, step, enter_word done (inside c List.mem_cons_self), Option.bind_some,
      run_word done fun c member => inside c (List.mem_cons_of_mem _ member)]
    simp
  rw [scanFrom, run_append, entered, Option.bind_some]
  cases rest with
  | nil =>
    simp only [run_nil, Option.bind_some, finish, List.reverse_reverse]
    cases Lexeme.ofWord? (c :: word) <;> rfl
  | cons next rest =>
    rw [run_cons, step]
    simp only [ends next rfl, if_true, List.reverse_reverse, Option.bind_map]
    cases Lexeme.ofWord? (c :: word) <;> rfl

theorem run_control {n : Nat} (control : n < 32) (read : List Char) :
    Scanner.run ⟨done, .string read⟩ (escaped (Char.ofNat n)) =
      some ⟨done, .string (Char.ofNat n :: read)⟩ := by
  interval_cases n <;> rfl

theorem run_escaped (c : Char) (read : List Char) :
    Scanner.run ⟨done, .string read⟩ (escaped c) = some ⟨done, .string (c :: read)⟩ := by
  by_cases quote : c = '"'
  · subst quote
    rfl
  · by_cases slash : c = '\\'
    · subst slash
      rfl
    · by_cases control : c.toNat < 32
      · have same : Char.ofNat c.toNat = c := Char.ofNat_toNat c
        rw [← same]
        exact run_control done control read
      · simp [escaped, quote, slash, control, run_cons, step]

theorem run_string (cs read : List Char) :
    Scanner.run ⟨done, .string read⟩ (cs.flatMap escaped) =
      some ⟨done, .string (cs.reverse ++ read)⟩ := by
  induction cs generalizing read with
  | nil => rfl
  | cons c cs ih =>
    rw [List.flatMap_cons, run_append, run_escaped, Option.bind_some, ih]
    simp

theorem scanFrom_text (s : String) :
    scanFrom done ((Lexeme.text s).chars ++ rest) = scanFrom (.text s :: done) rest := by
  have opened : step ⟨done, .between⟩ '"' = some ⟨done, .string []⟩ := rfl
  have closed : step ⟨done, .string s.toList.reverse⟩ '"' = some ⟨.text s :: done, .between⟩ := by
    simp [step]
  rw [Lexeme.chars, List.append_assoc, List.cons_append, scanFrom, run_cons, opened,
    Option.bind_some, run_append, run_string, Option.bind_some, List.append_nil,
    List.cons_append, List.nil_append, run_cons, closed]
  rfl

theorem mark_chars {l : Lexeme} (mark : l.isMark = true) :
    ∃ c, l.chars = [c] ∧ Lexeme.punctuation? c = some l ∧ endsWord c = true := by
  cases l with
  | beginArray => exact ⟨'[', rfl, rfl, rfl⟩
  | endArray => exact ⟨']', rfl, rfl, rfl⟩
  | beginObject => exact ⟨'\x7b', rfl, rfl, rfl⟩
  | endObject => exact ⟨'\x7d', rfl, rfl, rfl⟩
  | colon => exact ⟨':', rfl, rfl, rfl⟩
  | comma => exact ⟨',', rfl, rfl, rfl⟩
  | null => cases mark
  | bool b => cases mark
  | number n => cases mark
  | text s => cases mark

theorem endsWord_chars {lexemes : List Lexeme}
    (marked : ∀ next ∈ lexemes.head?, next.isMark = true) :
    ∀ c ∈ (lexemes.flatMap Lexeme.chars).head?, endsWord c = true := by
  cases lexemes with
  | nil => exact fun _ member => nomatch member
  | cons l rest =>
    obtain ⟨c, chars, -, ends⟩ := mark_chars (marked l rfl)
    intro c' member
    rw [List.flatMap_cons, chars] at member
    cases member
    exact ends

end Scanner

open Scanner

theorem scanFrom_lexemes {lexemes : List Lexeme} (separated : Lexeme.Separated lexemes)
    (words : ∀ n, Lexeme.number n ∈ lexemes → IsWord n.text) (done : List Lexeme) :
    scanFrom done (lexemes.flatMap Lexeme.chars) =
      (lexemes.mapM Lexeme.reread?).map fun again => done.reverse ++ again := by
  -- only a bare word depends on what follows it, and a mark follows each one that is not the last
  induction lexemes generalizing done with
  | nil => simp [scanFrom_nil]
  | cons l rest ih =>
    have later (separated : Lexeme.Separated rest) (l' : Lexeme) :=
      ih separated (fun n member => words n (List.mem_cons_of_mem _ member)) (l' :: done)
    have word {cs : List Char} (chars : l.chars = cs) (isWord : IsWord cs)
        (read : l.reread? = Lexeme.ofWord? cs)
        (marked : (∀ next ∈ rest.head?, next.isMark = true) ∧ Lexeme.Separated rest) :
        scanFrom done ((l :: rest).flatMap Lexeme.chars) =
          ((l :: rest).mapM Lexeme.reread?).map fun again => done.reverse ++ again := by
      rw [List.flatMap_cons, chars, scanFrom_word done _ isWord (endsWord_chars marked.1),
        List.mapM_cons, read]
      cases Lexeme.ofWord? cs with
      | none => rfl
      | some l' =>
        rw [Option.bind_some, later marked.2 l']
        cases rest.mapM Lexeme.reread? <;> simp
    have mark (marks : l.isMark = true) (same : l.reread? = some l)
        (separated : Lexeme.Separated rest) :
        scanFrom done ((l :: rest).flatMap Lexeme.chars) =
          ((l :: rest).mapM Lexeme.reread?).map fun again => done.reverse ++ again := by
      obtain ⟨c, chars, marks, -⟩ := mark_chars marks
      rw [List.flatMap_cons, chars, List.cons_append, List.nil_append, scanFrom_mark done _ marks,
        later separated l, List.mapM_cons, same]
      cases rest.mapM Lexeme.reread? <;> simp
    cases l with
    | null => exact word rfl (by decide) rfl separated
    | bool b => cases b <;> exact word rfl (by decide) rfl separated
    | number n => exact word rfl (words n List.mem_cons_self) rfl separated
    | text s =>
      rw [List.flatMap_cons, scanFrom_text, later separated, List.mapM_cons]
      cases rest.mapM Lexeme.reread? <;> simp [Lexeme.reread?]
    | beginArray => exact mark rfl rfl separated
    | endArray => exact mark rfl rfl separated
    | beginObject => exact mark rfl rfl separated
    | endObject => exact mark rfl rfl separated
    | colon => exact mark rfl rfl separated
    | comma => exact mark rfl rfl separated

theorem scan?_lexemes {lexemes : List Lexeme} (separated : Lexeme.Separated lexemes)
    (words : ∀ n, Lexeme.number n ∈ lexemes → IsWord n.text) :
    Lexeme.scan? (lexemes.flatMap Lexeme.chars) = lexemes.mapM Lexeme.reread? := by
  have scanned := scanFrom_lexemes separated words []
  simpa [scanFrom, Lexeme.scan?, Scanner.start] using scanned

end GatewayLink.Json
