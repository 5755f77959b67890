import GatewayLink.Text.Hex

/-! TOML strings.
A quotation is basic, between `"` and with escapes, or literal, between `'` and without; either comes in a
form on one line and in a form between three marks that runs over lines. The reader is a machine that
takes one character at a time and ends at the closing marks. -/

namespace GatewayLink.Toml

open Text

def newline? : List Char → Option (List Char)
  | '\n' :: rest => some rest
  | '\r' :: '\n' :: rest => some rest
  | _ => none

def isWs (c : Char) : Bool := c == ' ' || c == '\t'

def skipWs (cs : List Char) : List Char := cs.dropWhile isWs

def isPlain (c : Char) : Bool := c == '\t' || (0x20 ≤ c.toNat && c.toNat != 0x7f)

structure Quotation where
  mark : Char
  multiline : Bool
  escapes : Bool

namespace Quotation

/-- Where the machine stands inside a quotation. -/
inductive Place where
  | inside
  | marks (count : Nat)
  | afterReturn
  | escape
  | code (left value : Nat)
  /-- After a backslash at the end of a line; `broken` once the newline has come. -/
  | trimming (broken : Bool)
  | trimmingReturn

/-- What a character does. The text read so far is kept latest first; `before` ends the quotation before
the character. -/
inductive Move where
  | next (read : List Char) (place : Place)
  | done (read : List Char)
  | before (read : List Char)
  | fail

def unescape? (c : Char) : Option Char :=
  match c with
  | 'b' => some '\x08'
  | 't' => some '\t'
  | 'n' => some '\n'
  | 'f' => some '\x0c'
  | 'r' => some '\r'
  | '"' => some '"'
  | '\\' => some '\\'
  | _ => none

def moveInside (q : Quotation) (read : List Char) (c : Char) : Move :=
  if c = q.mark then if q.multiline then .next read (.marks 1) else .done read
  else if c = '\\' && q.escapes then .next read .escape
  else if c = '\n' && q.multiline then .next (c :: read) .inside
  else if c = '\r' && q.multiline then .next read .afterReturn
  else if isPlain c then .next (c :: read) .inside
  else .fail

def addMarks (q : Quotation) (count : Nat) (read : List Char) : List Char :=
  List.replicate count q.mark ++ read

def isScalar (n : Nat) : Bool := n < 0xd800 || (0xe000 ≤ n && n < 0x110000)

def moveTrimming (q : Quotation) (broken : Bool) (read : List Char) (c : Char) : Move :=
  if isWs c then .next read (.trimming broken)
  else if c = '\n' then .next read (.trimming true)
  else if c = '\r' then .next read .trimmingReturn
  else if broken then q.moveInside read c
  else .fail

def move (q : Quotation) (read : List Char) (place : Place) (c : Char) : Move :=
  match place with
  | .inside => q.moveInside read c
  | .marks count =>
    if c = q.mark then
      if count = 4 then .done (q.addMarks 2 read) else .next read (.marks (count + 1))
    else if 3 ≤ count then .before (q.addMarks (count - 3) read)
    else q.moveInside (q.addMarks count read) c
  | .afterReturn => if c = '\n' then .next ('\n' :: read) .inside else .fail
  | .escape =>
    if c = 'u' then .next read (.code 4 0)
    else if c = 'U' then .next read (.code 8 0)
    else if q.multiline && (isWs c || c == '\n' || c == '\r') then q.moveTrimming false read c
    else
      match unescape? c with
      | some plain => .next (plain :: read) .inside
      | none => .fail
  | .code left value =>
    match hexDigit? c with
    | none => .fail
    | some d =>
      let value := 16 * value + d
      if 1 < left then .next read (.code (left - 1) value)
      else if isScalar value then .next (Char.ofNat value :: read) .inside
      else .fail
  | .trimming broken => q.moveTrimming broken read c
  | .trimmingReturn => if c = '\n' then .next read (.trimming true) else .fail

def atEnd (q : Quotation) (read : List Char) : Place → Option (String × List Char)
  | .marks count =>
    if 3 ≤ count then some (String.ofList (q.addMarks (count - 3) read).reverse, []) else none
  | _ => none

def run (q : Quotation) (read : List Char) (place : Place) : List Char → Option (String × List Char)
  | [] => q.atEnd read place
  | c :: rest =>
    match q.move read place c with
    | .next read place => run q read place rest
    | .done read => some (String.ofList read.reverse, rest)
    | .before read => some (String.ofList read.reverse, c :: rest)
    | .fail => none

end Quotation

def lineQuotation? (mark : Char) (cs : List Char) : Option (String × List Char) :=
  Quotation.run ⟨mark, false, mark == '"'⟩ [] .inside cs

def blockQuotation? (mark : Char) (cs : List Char) : Option (String × List Char) :=
  Quotation.run ⟨mark, true, mark == '"'⟩ [] .inside ((newline? cs).getD cs)

def quotation? : List Char → Option (String × List Char)
  | '"' :: '"' :: '"' :: rest => blockQuotation? '"' rest
  | '\'' :: '\'' :: '\'' :: rest => blockQuotation? '\'' rest
  | '"' :: rest => lineQuotation? '"' rest
  | '\'' :: rest => lineQuotation? '\'' rest
  | _ => none

end GatewayLink.Toml
