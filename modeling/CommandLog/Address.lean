/-!
# Socket addresses

An IP address and a port, and how they are written: `127.0.0.1:9000` or `[::1]:9000`.

The four numbers of an IPv4 address are decimal, at most 255, and without leading zeros.  An IPv6
address has eight groups of at most four hexadecimal digits; `::` stands once for one or more groups
of zeros, and the last two groups may be written as an IPv4 address; a scope follows after `%` as a
decimal number.  A port is a decimal number below 65536 and may have leading zeros.  Nothing may
stand before or after an address.

A reader takes what it can from the front of the characters and leaves the rest.
-/

namespace CommandLog

/-- An IP address. -/
inductive IpAddress where
  | v4 (numbers : List Nat)
  | v6 (groups : List Nat) (scope : Nat)
  deriving DecidableEq

namespace IpAddress

/-- The blocks of IPv6 addresses that the network treats in ways of their own. -/
inductive Block where
  /-- The address of no host in particular. -/
  | unspecified
  /-- An IPv4 address that is written as an IPv6 one. -/
  | mapped
  /-- Addresses on one link; their scope says on which. -/
  | linkLocal
  /-- Addresses of many hosts together. -/
  | multicast
  | other
  deriving DecidableEq

/-- The block to which the groups of an IPv6 address belong. -/
def Block.ofGroups (groups : List Nat) : Block :=
  let first := groups.headD 0
  if groups.all (· == 0) then .unspecified
  else if groups.take 6 = [0, 0, 0, 0, 0, 0xFFFF] then .mapped
  else if 0xFE80 ≤ first ∧ first < 0xFEC0 then .linkLocal
  else if 0xFF00 ≤ first then .multicast
  else .other

end IpAddress

/-- An IP address and a port. -/
structure Address where
  ip : IpAddress
  port : Nat
  deriving DecidableEq

namespace Address

/-- What follows a character, if that character comes first. -/
def skip? (c : Char) : List Char → Option (List Char)
  | [] => none
  | d :: rest => if c = d then some rest else none

/-- The value of a digit in a base of at most 16. -/
def digit? (base : Nat) (c : Char) : Option Nat :=
  let value :=
    if '0' ≤ c ∧ c ≤ '9' then c.toNat - 48
    else if 'a' ≤ c ∧ c ≤ 'f' then c.toNat - 87
    else if 'A' ≤ c ∧ c ≤ 'F' then c.toNat - 55
    else 16
  if value < base then some value else none

/-- Reads digits onto a value, and counts them. -/
def digits (base : Nat) : (value count : Nat) → List Char → Nat × Nat × List Char
  | value, count, [] => (value, count, [])
  | value, count, c :: rest =>
    match digit? base c with
    | some d => digits base (value * base + d) (count + 1) rest
    | none => (value, count, c :: rest)

/-- Reads a number below `limit`: all the digits there are, at least one and, where `room` is given,
at most so many. -/
def number? (base limit : Nat) (room : Option Nat) (leadingZeros : Bool) (cs : List Char) :
    Option (Nat × List Char) :=
  let (value, count, rest) := digits base 0 0 cs
  if count = 0 ∨ limit ≤ value then none
  else if room.any (· < count) then none
  else if !leadingZeros && cs.head? == some '0' && count != 1 then none
  else some (value, rest)

/-- Reads one of the numbers of an IPv4 address. -/
def octet? (cs : List Char) : Option (Nat × List Char) := number? 10 256 (some 3) false cs

/-- Reads an IPv4 address. -/
def ipv4? (cs : List Char) : Option (List Nat × List Char) := do
  let (a, cs) ← octet? cs
  let (b, cs) ← octet? (← skip? '.' cs)
  let (c, cs) ← octet? (← skip? '.' cs)
  let (d, cs) ← octet? (← skip? '.' cs)
  return ([a, b, c, d], cs)

/-- Reads the colon in front of every group but the first, and then the group. -/
def afterColon? {α : Type} (isFirst : Bool) (read : List Char → Option (α × List Char))
    (cs : List Char) : Option (α × List Char) :=
  if isFirst then read cs else do read (← skip? ':' cs)

/-- Reads up to `room` groups of an IPv6 address.  An IPv4 address in the place of two groups ends
them; the answer says whether there was one. -/
def groups (isFirst : Bool) : (room : Nat) → List Char → List Nat × Bool × List Char
  | 0, cs => ([], false, cs)
  | room + 1, cs =>
    match if room = 0 then none else afterColon? isFirst ipv4? cs with
    | some (numbers, rest) =>
      match numbers with
      | [a, b, c, d] => ([a * 256 + b, c * 256 + d], true, rest)
      | _ => ([], false, cs)
    | none =>
      match afterColon? isFirst (number? 16 65536 (some 4) true) cs with
      | some (group, rest) =>
        let (others, embedded, rest) := groups false room rest
        (group :: others, embedded, rest)
      | none => ([], false, cs)

/-- Reads an IPv6 address. -/
def ipv6? (cs : List Char) : Option (List Nat × List Char) :=
  match groups true 8 cs with
  | (first, embedded, cs) =>
    if first.length = 8 then some (first, cs)
    else if embedded then none
    else do
      let cs ← skip? ':' (← skip? ':' cs)
      let (last, _, cs) := groups true (7 - first.length) cs
      return (first ++ List.replicate (8 - first.length - last.length) 0 ++ last, cs)

/-- Reads the scope of an IPv6 address; without one it is 0. -/
def scope (cs : List Char) : Nat × List Char :=
  match skip? '%' cs with
  | none => (0, cs)
  | some rest => (number? 10 UInt32.size none true rest).getD (0, cs)

/-- Reads a colon and a port. -/
def port? (cs : List Char) : Option (Nat × List Char) := do
  number? 10 65536 none true (← skip? ':' cs)

/-- Reads an IPv4 address and a port. -/
def v4? (cs : List Char) : Option (Address × List Char) := do
  let (numbers, cs) ← ipv4? cs
  let (port, cs) ← port? cs
  return (⟨.v4 numbers, port⟩, cs)

/-- Reads an IPv6 address in brackets and a port. -/
def v6? (cs : List Char) : Option (Address × List Char) := do
  let (groups, cs) ← ipv6? (← skip? '[' cs)
  let (scope, cs) := scope cs
  let (port, cs) ← port? (← skip? ']' cs)
  return (⟨.v6 groups scope, port⟩, cs)

/-- The address that a text is. -/
def ofString? (text : String) : Option Address :=
  match v4? text.toList <|> v6? text.toList with
  | some (address, []) => some address
  | _ => none

end Address

end CommandLog
