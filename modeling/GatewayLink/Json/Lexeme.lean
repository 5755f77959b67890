import GatewayLink.Json.Number
import GatewayLink.Text.Hex

/-! Lexemes of JSON text.
`Lexeme.chars` writes one, and `Lexeme.scan?` cuts a text into lexemes. The scanner is a machine that
takes one character at a time: it stands between lexemes, inside a bare word, or inside a string. A bare
word runs to the next blank, quote or punctuation mark and must then be a literal as a whole. -/

namespace GatewayLink.Json

open Text

inductive Lexeme where
  | beginArray
  | endArray
  | beginObject
  | endObject
  | colon
  | comma
  | null
  | bool (value : Bool)
  | number (value : Number)
  | text (value : String)
  deriving DecidableEq

def shortEscape? (c : Char) : Option Char :=
  match c.toNat with
  | 8 => some 'b'
  | 9 => some 't'
  | 10 => some 'n'
  | 12 => some 'f'
  | 13 => some 'r'
  | _ => none

/-- A character inside a string: the two marks and the characters below the space are escaped. -/
def escaped (c : Char) : List Char :=
  if c = '"' then ['\\', '"']
  else if c = '\\' then ['\\', '\\']
  else if c.toNat < 0x20 then
    match shortEscape? c with
    | some e => ['\\', e]
    | none => '\\' :: 'u' :: hexPadded 4 c.toNat
  else [c]

namespace Lexeme

def chars : Lexeme → List Char
  | beginArray => ['[']
  | endArray => [']']
  | beginObject => ['\x7b']
  | endObject => ['\x7d']
  | colon => [':']
  | comma => [',']
  | null => "null".toList
  | bool true => "true".toList
  | bool false => "false".toList
  | number n => n.text
  | text s => '"' :: s.toList.flatMap escaped ++ ['"']

def punctuation? (c : Char) : Option Lexeme :=
  match c with
  | '[' => some beginArray
  | ']' => some endArray
  | '\x7b' => some beginObject
  | '\x7d' => some endObject
  | ':' => some colon
  | ',' => some comma
  | _ => none

def isSpace (c : Char) : Bool := c == ' ' || c == '\t' || c == '\n' || c == '\r'

def ofWord? (word : List Char) : Option Lexeme :=
  if word = "null".toList then some null
  else if word = "true".toList then some (bool true)
  else if word = "false".toList then some (bool false)
  else (Literal.ofWord? word).bind fun l => l.number?.map number

end Lexeme

/-- Where the scanner stands. The characters read of the current lexeme are kept latest first. -/
inductive Place where
  | between
  | word (read : List Char)
  | string (read : List Char)
  | escape (read : List Char)
  | unit (read : List Char) (high : Option Nat) (digits value : Nat)
  | lowMark (read : List Char) (high : Nat)
  | lowUnit (read : List Char) (high : Nat)

structure Scanner where
  done : List Lexeme
  place : Place

namespace Scanner

def start : Scanner := ⟨[], .between⟩

def enter (done : List Lexeme) (c : Char) : Scanner :=
  if Lexeme.isSpace c then ⟨done, .between⟩
  else if c = '"' then ⟨done, .string []⟩
  else
    match Lexeme.punctuation? c with
    | some mark => ⟨mark :: done, .between⟩
    | none => ⟨done, .word [c]⟩

def endsWord (c : Char) : Bool :=
  Lexeme.isSpace c || c == '"' || (Lexeme.punctuation? c).isSome

def unescape? (c : Char) : Option Char :=
  match c with
  | '"' => some '"'
  | '\\' => some '\\'
  | '/' => some '/'
  | 'b' => some '\x08'
  | 'f' => some '\x0c'
  | 'n' => some '\n'
  | 'r' => some '\r'
  | 't' => some '\t'
  | _ => none

def endUnit (read : List Char) (high : Option Nat) (value : Nat) : Option Place :=
  match high with
  | none =>
    if 0xd800 ≤ value ∧ value < 0xdc00 then some (.lowMark read value)
    else if 0xdc00 ≤ value ∧ value < 0xe000 then none
    else some (.string (Char.ofNat value :: read))
  | some first =>
    if 0xdc00 ≤ value ∧ value < 0xe000 then
      some (.string (Char.ofNat (0x10000 + (first - 0xd800) * 0x400 + (value - 0xdc00)) :: read))
    else none

def step (s : Scanner) (c : Char) : Option Scanner :=
  match s.place with
  | .between => some (enter s.done c)
  | .word read =>
    if endsWord c then (Lexeme.ofWord? read.reverse).map fun l => enter (l :: s.done) c
    else some ⟨s.done, .word (c :: read)⟩
  | .string read =>
    if c = '"' then some ⟨.text (String.ofList read.reverse) :: s.done, .between⟩
    else if c = '\\' then some ⟨s.done, .escape read⟩
    else if c.toNat < 0x20 then none
    else some ⟨s.done, .string (c :: read)⟩
  | .escape read =>
    if c = 'u' then some ⟨s.done, .unit read none 0 0⟩
    else (unescape? c).map fun plain => ⟨s.done, .string (plain :: read)⟩
  | .unit read high digits value =>
    (hexDigit? c).bind fun d =>
      if digits < 3 then some ⟨s.done, .unit read high (digits + 1) (16 * value + d)⟩
      else (endUnit read high (16 * value + d)).map fun place => ⟨s.done, place⟩
  | .lowMark read high => if c = '\\' then some ⟨s.done, .lowUnit read high⟩ else none
  | .lowUnit read high => if c = 'u' then some ⟨s.done, .unit read (some high) 0 0⟩ else none

def finish (s : Scanner) : Option (List Lexeme) :=
  match s.place with
  | .between => some s.done.reverse
  | .word read => (Lexeme.ofWord? read.reverse).map fun l => (l :: s.done).reverse
  | _ => none

def run (s : Scanner) (cs : List Char) : Option Scanner := cs.foldlM step s

@[simp] theorem run_nil (s : Scanner) : s.run [] = some s := rfl

theorem run_append (s : Scanner) (front back : List Char) :
    s.run (front ++ back) = (s.run front).bind fun middle => middle.run back := by
  simp [run, List.foldlM_append]

end Scanner

def Lexeme.scan? (cs : List Char) : Option (List Lexeme) :=
  (Scanner.start.run cs).bind Scanner.finish

end GatewayLink.Json
