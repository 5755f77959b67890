import GatewayLink.Json.Basic
import GatewayLink.Json.Lexeme

/-! JSON documents: a value as a list of lexemes, and back.
`Assembly` reads lexemes one at a time and keeps the containers that are still open, the innermost one
first. At most `maxDepth` of them may be open at once. `Json.parse?` reads UTF-8 octets, `Json.compact`
writes text without blanks. -/

namespace GatewayLink.Json

def maxDepth : Nat := 127

inductive Context where
  | array (items : List Json)
  | object (members : Members)
  | member (members : Members) (key : String)

/-- What may follow in the innermost open container. -/
inductive Need where
  /-- The container was just opened: its first entry or its end. -/
  | first
  | next
  | colon
  | more
  deriving DecidableEq

inductive Assembly where
  | building (contexts : List Context) (need : Need)
  | complete (value : Json)

namespace Assembly

def start : Assembly := .building [] .next

def place (v : Json) : List Context → Option Assembly
  | [] => some (.complete v)
  | .array items :: outer => some (.building (.array (v :: items) :: outer) .more)
  | .member members key :: outer => some (.building (.object ((key, v) :: members) :: outer) .more)
  | .object _ :: _ => none

def takesValue : List Context → Need → Bool
  | .array _ :: _, .first => true
  | .array _ :: _, .next => true
  | .member _ _ :: _, .next => true
  | [], .next => true
  | _, _ => false

def openContext (inner : Context) (contexts : List Context) : Option Assembly :=
  if contexts.length < maxDepth then some (.building (inner :: contexts) .first) else none

def step : Assembly → Lexeme → Option Assembly
  | .complete _, _ => none
  | .building contexts need, lexeme =>
    if takesValue contexts need && lexeme != .endArray then
      match lexeme with
      | .null => place .null contexts
      | .bool b => place (.bool b) contexts
      | .number n => place (.number n) contexts
      | .text s => place (.text s) contexts
      | .beginArray => openContext (.array []) contexts
      | .beginObject => openContext (.object []) contexts
      | _ => none
    else
      match contexts, need, lexeme with
      | .array items :: outer, .first, .endArray => place (.array items.reverse) outer
      | .array items :: outer, .more, .endArray => place (.array items.reverse) outer
      | .object members :: outer, .first, .endObject => place (.object members.reverse) outer
      | .object members :: outer, .more, .endObject => place (.object members.reverse) outer
      | .object members :: outer, .first, .text key =>
        some (.building (.member members key :: outer) .colon)
      | .object members :: outer, .next, .text key =>
        some (.building (.member members key :: outer) .colon)
      | .member _ _ :: _, .colon, .colon => some (.building contexts .next)
      | .array _ :: _, .more, .comma => some (.building contexts .next)
      | .object _ :: _, .more, .comma => some (.building contexts .next)
      | _, _, _ => none

def run (a : Assembly) (lexemes : List Lexeme) : Option Assembly := lexemes.foldlM step a

def value? : Assembly → Option Json
  | .complete v => some v
  | .building _ _ => none

end Assembly

def ofLexemes? (lexemes : List Lexeme) : Option Json :=
  (Assembly.start.run lexemes).bind Assembly.value?

mutual

def lexemes : Json → List Lexeme
  | .null => [.null]
  | .bool b => [.bool b]
  | .number n => [.number n]
  | .text s => [.text s]
  | .array items => .beginArray :: itemLexemes items ++ [.endArray]
  | .object members => .beginObject :: memberLexemes members ++ [.endObject]

def itemLexemes : List Json → List Lexeme
  | [] => []
  | [v] => v.lexemes
  | v :: rest => v.lexemes ++ .comma :: itemLexemes rest

def memberLexemes : List (String × Json) → List Lexeme
  | [] => []
  | [(key, v)] => .text key :: .colon :: v.lexemes
  | (key, v) :: rest => .text key :: .colon :: v.lexemes ++ .comma :: memberLexemes rest

end

def compact (v : Json) : String := String.ofList (v.lexemes.flatMap Lexeme.chars)

def charsOfOctets? (octets : List UInt8) : Option (List Char) :=
  (ByteArray.mk octets.toArray).utf8Decode?.map Array.toList

def octetsOfText (s : String) : List UInt8 := s.toUTF8.toList

def parse? (octets : List UInt8) : Option Json :=
  (charsOfOctets? octets).bind fun cs => (Lexeme.scan? cs).bind ofLexemes?

end GatewayLink.Json
