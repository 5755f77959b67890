import GatewayLink.Text.Digits
import GatewayLink.Text.Hex

/-! Endpoints: an IP address with a port, as written in settings. A server can listen on an endpoint of the
own host, that is on a loopback address or on the address that stands for all of them. -/

namespace GatewayLink

open Text

inductive IpAddress where
  | four (octets : List Nat)
  | six (groups : List Nat)
  deriving DecidableEq

structure Endpoint where
  address : IpAddress
  port : Nat
  deriving DecidableEq

namespace Endpoint

def splitAt (mark : Char) : List Char → List (List Char)
  | [] => [[]]
  | c :: rest =>
    match c == mark, splitAt mark rest with
    | true, parts => [] :: parts
    | false, part :: parts => (c :: part) :: parts
    | false, [] => [[c]]

def octet? (ds : List Char) : Option Nat :=
  let canonical := ds.length = 1 ∨ ds.head? ≠ some '0'
  if ds ≠ [] ∧ ds.length ≤ 3 ∧ ds.all isDigit ∧ canonical ∧ decimalValue ds < 256 then
    some (decimalValue ds)
  else none

def four? (cs : List Char) : Option (List Nat) :=
  let parts := splitAt '.' cs
  if parts.length = 4 then parts.mapM octet? else none

def group? (ds : List Char) : Option Nat :=
  if ds ≠ [] ∧ ds.length ≤ 4 then
    (ds.mapM hexDigit?).map fun vs => vs.foldl (fun n d => 16 * n + d) 0
  else none

def groups? (cs : List Char) : Option (List Nat) :=
  if cs = [] then some [] else (splitAt ':' cs).mapM group?

def lastGroups? (cs : List Char) : Option (List Nat) :=
  let parts := splitAt ':' cs
  match parts.getLast?.bind four? with
  | some [a, b, c, d] =>
    (parts.dropLast.mapM group?).map fun gs => gs ++ [256 * a + b, 256 * c + d]
  | _ => groups? cs

def splitGap? : List Char → Option (List Char × List Char)
  | ':' :: ':' :: rest => some ([], rest)
  | c :: rest => (splitGap? rest).map fun (front, back) => (c :: front, back)
  | [] => none

def six? (cs : List Char) : Option (List Nat) :=
  match splitGap? cs with
  | none => (lastGroups? cs).bind fun gs => if gs.length = 8 then some gs else none
  | some (front, back) =>
    (groups? front).bind fun fs => (lastGroups? back).bind fun bs =>
      if fs.length + bs.length < 8 then
        some (fs ++ List.replicate (8 - fs.length - bs.length) 0 ++ bs)
      else none

def port? (ds : List Char) : Option Nat :=
  if ds ≠ [] ∧ ds.all isDigit ∧ decimalValue ds < 65536 then some (decimalValue ds) else none

def ofText? (s : String) : Option Endpoint :=
  match s.toList with
  | '[' :: rest =>
    match rest.dropWhile (· ≠ ']') with
    | ']' :: ':' :: port =>
      (six? (rest.takeWhile (· ≠ ']'))).bind fun gs => (port? port).map fun p => ⟨.six gs, p⟩
    | _ => none
  | cs =>
    match splitAt ':' cs with
    | [host, port] => (four? host).bind fun os => (port? port).map fun p => ⟨.four os, p⟩
    | _ => none

def isLocal (e : Endpoint) : Bool :=
  match e.address with
  | .four octets => octets == [0, 0, 0, 0] || octets.head? == some 127
  | .six groups => groups == List.replicate 8 0 || groups == List.replicate 7 0 ++ [1]

end Endpoint

def canListen (bind : String) : Bool := (Endpoint.ofText? bind).any Endpoint.isLocal

end GatewayLink
