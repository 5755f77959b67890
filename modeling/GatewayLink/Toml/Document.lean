import GatewayLink.Toml.Quotation
import GatewayLink.Toml.Tree

/-! TOML documents.
Lines hold a header, an assignment, or nothing, and may end with a comment. Values may contain arrays, which
run over lines, and inline tables, which do not. Containers nest less than `depthLimit` deep, and a
dotted key has fewer parts than that. -/

namespace GatewayLink.Toml

open Text

def depthLimit : Nat := 80

def isBareKey (c : Char) : Bool :=
  isDigit c || ('a' ≤ c && c ≤ 'z') || ('A' ≤ c && c ≤ 'Z') || c == '_' || c == '-'

def simpleKey? : List Char → Option (String × List Char)
  | '"' :: rest => lineQuotation? '"' rest
  | '\'' :: rest => lineQuotation? '\'' rest
  | cs =>
    match cs.takeWhile isBareKey with
    | [] => none
    | key => some (String.ofList key, cs.dropWhile isBareKey)

def keyParts? : (parts : Nat) → List Char → Option (List String × List Char)
  | 0, _ => none
  | parts + 1, cs =>
    (simpleKey? (skipWs cs)).bind fun (part, cs) =>
      match skipWs cs with
      | '.' :: rest => (keyParts? parts rest).map fun (others, cs) => (part :: others, cs)
      | cs => some ([part], cs)

/-- A key as the path before its last part and that part. -/
def key? (cs : List Char) : Option ((Path × String) × List Char) :=
  (keyParts? (depthLimit - 1) cs).bind fun (parts, cs) =>
    parts.getLast?.map fun last => ((parts.dropLast, last), cs)

def skipComment (cs : List Char) : List Char :=
  match cs with
  | '#' :: rest => rest.dropWhile isPlain
  | _ => cs

def endOfLine? (cs : List Char) : Option (List Char) :=
  match skipComment (skipWs cs) with
  | [] => some []
  | cs => newline? cs

def skipLines : (fuel : Nat) → List Char → List Char
  | 0, cs => cs
  | fuel + 1, cs =>
    let cs := skipWs cs
    match newline? cs, cs with
    | some rest, _ => skipLines fuel rest
    | none, '#' :: rest =>
      match newline? (rest.dropWhile isPlain) with
      | some rest => skipLines fuel rest
      | none => cs
    | none, cs => cs

mutual

def value? (fuel depth : Nat) (cs : List Char) : Option (Value × List Char) :=
  match fuel, cs with
  | 0, _ => none
  | fuel + 1, '[' :: rest =>
    if depth + 1 < depthLimit then
      (items? fuel (depth + 1) rest).map fun (items, rest) => (.array items, rest)
    else none
  | fuel + 1, '\x7b' :: rest =>
    if depth + 1 < depthLimit then
      match skipWs rest with
      | '\x7d' :: rest => some (.table [], rest)
      | _ =>
        (assignments? fuel (depth + 1) rest).bind fun (assignments, rest) =>
          (inlineTable? assignments).map fun v => (v, rest)
    else none
  | _ + 1, cs =>
    match quotation? cs with
    | some (text, rest) => some (.text text, rest)
    | none => word? cs

def items? (fuel depth : Nat) (cs : List Char) : Option (List Value × List Char) :=
  match fuel with
  | 0 => none
  | fuel + 1 =>
    match skipLines cs.length cs with
    | ']' :: rest => some ([], rest)
    | cs =>
      (value? fuel depth cs).bind fun (v, cs) =>
        match skipLines cs.length cs with
        | ']' :: rest => some ([v], rest)
        | ',' :: rest => (items? fuel depth rest).map fun (vs, rest) => (v :: vs, rest)
        | _ => none

/-- The assignments of an inline table up to its end; no comma follows the last one. -/
def assignments? (fuel depth : Nat) (cs : List Char) :
    Option (List (Path × String × Value) × List Char) :=
  match fuel with
  | 0 => none
  | fuel + 1 =>
    match key? cs with
    | some ((path, key), '=' :: cs) =>
      (value? fuel depth (skipWs cs)).bind fun (v, cs) =>
        match skipWs cs with
        | '\x7d' :: rest => some ([(path, key, v)], rest)
        | ',' :: rest =>
          (assignments? fuel depth rest).map fun (others, rest) => ((path, key, v) :: others, rest)
        | _ => none
    | _ => none

end

/-- Every step of the reader either takes a character or goes from a container to its next entry. -/
def valueFuel (cs : List Char) : Nat := 2 * cs.length + 2

def header? (cs : List Char) : Option ((Path × String) × List Char) := key? cs

def expression? : List Char → Option (Entry × List Char)
  | '[' :: '[' :: cs =>
    match header? cs with
    | some ((path, key), ']' :: ']' :: rest) => some (.arrayHeader path key, rest)
    | _ => none
  | '[' :: cs =>
    match header? cs with
    | some ((path, key), ']' :: rest) => some (.header path key, rest)
    | _ => none
  | cs =>
    match key? cs with
    | some ((path, key), '=' :: rest) =>
      (value? (valueFuel rest) 0 (skipWs rest)).map fun (v, rest) => (.assignment path key v, rest)
    | _ => none

def entries? : (lines : Nat) → List Char → Option (List Entry)
  | 0, cs => if cs = [] then some [] else none
  | lines + 1, cs =>
    if cs = [] then some []
    else
      let start := skipWs cs
      match endOfLine? start with
      | some rest => entries? lines rest
      | none =>
        (expression? start).bind fun (entry, cs) =>
          (endOfLine? cs).bind fun rest => (entries? lines rest).map (entry :: ·)

def dropByteOrderMark : List Char → List Char
  | '\ufeff' :: rest => rest
  | cs => cs

def parse? (document : String) : Option Entries :=
  let cs := dropByteOrderMark document.toList
  (entries? cs.length cs).bind entriesOf?

end GatewayLink.Toml
