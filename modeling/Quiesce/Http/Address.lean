import Quiesce.Text.CodePoints

/-!
# Numeric hosts

Hosts given by number: IPv4 addresses, which may be written with fewer than four parts and to
several bases, and IPv6 addresses.

* `ipv4?` and `ipv6?` read an address, and `endsInNumber` tells the hosts that have to be one.
* `ipv4Text` and `ipv6Text` write one in the form in which it is sent.
-/

namespace Quiesce.Http

open Text (segments joinSegments numberIn?)

/-! ### IPv4 addresses -/

/-- A part of an IPv4 address: hexadecimal after `0x`, octal after a further zero, else decimal. -/
def ipv4Part? : List Char → Option Nat
  | [] => none
  | '0' :: 'x' :: rest => numberIn? 16 rest
  | '0' :: 'X' :: rest => numberIn? 16 rest
  | '0' :: c :: rest => numberIn? 8 (c :: rest)
  | cs => numberIn? 10 cs

/-- The parts of a host between its dots, a dot at its end left out. -/
def hostParts (cs : List Char) : List (List Char) :=
  let parts := segments (· = '.') cs
  if parts.length > 1 && parts.getLast? = some [] then parts.dropLast else parts

/-- Whether the host has to be an IPv4 address: its last part is a number. -/
def endsInNumber (cs : List Char) : Bool :=
  match (hostParts cs).getLast? with
  | some part => !part.isEmpty && (part.all Char.isDigit || (ipv4Part? part).isSome)
  | none => false

/-- The address of as many parts; the last one fills the bytes that are left. -/
def ipv4Value? (parts : List Nat) : Option Nat :=
  match parts.reverse with
  | [] => none
  | last :: front =>
    if parts.length ≤ 4 && front.all (· < 256) && last < Nat.pow 256 (5 - parts.length) then
      some (front.reverse.foldl (fun n p => n * 256 + p) 0 * Nat.pow 256 (5 - parts.length)
        + last)
    else none

def ipv4Text (n : Nat) : List Char :=
  joinSegments '.' ([n / 16777216 % 256, n / 65536 % 256, n / 256 % 256, n % 256].map
    (Nat.toDigits 10))

/-- The host that ends in a number, as an IPv4 address. -/
def ipv4? (cs : List Char) : Option (List Char) := do
  let parts ← (hostParts cs).mapM ipv4Part?
  return ipv4Text (← ipv4Value? parts)

/-! ### IPv6 addresses -/

/-- A group of up to four hexadecimal digits. -/
def ipv6Group? (piece : List Char) : Option Nat :=
  if piece.isEmpty || piece.length > 4 then none else numberIn? 16 piece

/-- The groups of a part of an IPv6 address without a double colon. -/
def ipv6Groups? (cs : List Char) : Option (List Nat) :=
  if cs.isEmpty then some [] else (segments (· = ':') cs).mapM ipv6Group?

/-- The two groups that an IPv4 address in four decimal numbers stands for. -/
def ipv4Groups? (cs : List Char) : Option (List Nat) := do
  let parts ← (segments (· = '.') cs).mapM fun p =>
    if p.isEmpty || (p.length > 1 && p.head? = some '0') then none else numberIn? 10 p
  guard (parts.length = 4 && parts.all (· < 256))
  let n := parts.foldl (fun n p => n * 256 + p) 0
  return [n / 65536, n % 65536]

/-- The groups of the last part of an IPv6 address, which may end in an IPv4 address. -/
def ipv6LastGroups? (cs : List Char) : Option (List Nat) :=
  match (segments (· = ':') cs).reverse with
  | [] => none
  | last :: front =>
    if last.contains '.' then do
      return (← front.reverse.mapM ipv6Group?) ++ (← ipv4Groups? last)
    else ipv6Groups? cs

/-- What stands before and after the first double colon. -/
def splitDoubleColon : List Char → Option (List Char × List Char)
  | ':' :: ':' :: rest => some ([], rest)
  | c :: rest => (splitDoubleColon rest).map fun r => (c :: r.1, r.2)
  | [] => none

/-- The eight groups of an IPv6 address. -/
def ipv6? (cs : List Char) : Option (List Nat) := do
  match splitDoubleColon cs with
  | none =>
    let groups ← ipv6LastGroups? cs
    guard (groups.length = 8)
    return groups
  | some (left, right) =>
    guard (splitDoubleColon (':' :: right)).isNone
    let left ← ipv6Groups? left
    let right ← ipv6LastGroups? right
    guard (left.length + right.length ≤ 7)
    return left ++ List.replicate (8 - left.length - right.length) 0 ++ right

def leadingZeros (groups : List Nat) : Nat :=
  (groups.takeWhile (· = 0)).length

/-- The position and the length of the longest run of at least two zeros, the first of several. -/
def longestZeros (groups : List Nat) : Option (Nat × Nat) :=
  (List.range groups.length).foldl (fun best i =>
    let n := leadingZeros (groups.drop i)
    if n ≥ 2 && n > (best.map (·.2)).getD 0 then some (i, n) else best) none

/-- An IPv6 address with its longest run of zeros left out. -/
def ipv6Text (groups : List Nat) : List Char :=
  let text (gs : List Nat) := joinSegments ':' (gs.map (Nat.toDigits 16))
  match longestZeros groups with
  | none => text groups
  | some (i, n) => text (groups.take i) ++ [':', ':'] ++ text (groups.drop (i + n))

end Quiesce.Http
