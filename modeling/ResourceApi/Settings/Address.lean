import ResourceApi.Text.Digits
import ResourceApi.Text.Pieces

/-!
# Socket addresses

An address of a server: an IP address and a port. The text of an address of version 6 stands in brackets and may
name a scope. Reading accepts every usual spelling; writing gives the canonical one, with the longest run of zero
groups left out.
-/

namespace ResourceApi

/-- An IP address. -/
inductive IpAddress where
  /-- Version 4: four octets. -/
  | v4 (octets : List Nat)
  /-- Version 6: eight groups of sixteen bits. -/
  | v6 (groups : List Nat)
  deriving DecidableEq, Repr

/-- An IP address with a port; the scope of an address of version 4 is zero. -/
structure SocketAddress where
  ip : IpAddress
  scope : Nat
  portNumber : Nat
  deriving DecidableEq, Repr

namespace IpAddress

/-! ## Writing -/

/-- The number of zero groups at the front. -/
def zeroRun (groups : List Nat) : Nat :=
  (groups.takeWhile (· == 0)).length

/-- The place and the length of the longest run of zero groups, the first of several. -/
def longestRun : List Nat → Nat × Nat
  | [] => (0, 0)
  | group :: rest =>
    let here := zeroRun (group :: rest)
    let (start, length) := longestRun rest
    if here = 0 ∨ here < length then (start + 1, length) else (0, here)

/-- Groups with colons between them. -/
def joinGroups (groups : List Nat) : String :=
  Text.join ":" (groups.map Text.hexadecimal)

/-- Groups with the longest run of at least two zeros left out. -/
def compressed (groups : List Nat) : String :=
  let (start, length) := longestRun groups
  if 1 < length then joinGroups (groups.take start) ++ "::" ++ joinGroups (groups.drop (start + length))
  else joinGroups groups

/-- The canonical text of an address. One of version 4 inside version 6 keeps its octets. -/
def text : IpAddress → String
  | v4 octets => Text.join "." (octets.map Text.decimal)
  | v6 [0, 0, 0, 0, 0, 0xFFFF, high, low] =>
    "::ffff:" ++ Text.join "." ([high / 256, high % 256, low / 256, low % 256].map Text.decimal)
  | v6 groups => compressed groups

/-- Whether an address is one of version 6. -/
def isV6 : IpAddress → Bool
  | v4 _ => false
  | v6 _ => true

/-! ## Reading -/

/-- Read a run of digits of a base. -/
def readDigits (base : Nat) : List Char → List Nat × List Char
  | [] => ([], [])
  | c :: rest =>
    match Text.digitValue? base c with
    | some value =>
      let (more, rest) := readDigits base rest
      (value :: more, rest)
    | none => ([], c :: rest)

/-- The number that digits of a base write. -/
def ofDigits (base : Nat) (digits : List Nat) : Nat :=
  digits.foldl (fun n digit => n * base + digit) 0

/-- Read an octet: at most three digits, no zero before others. -/
def readOctet (s : List Char) : Option (Nat × List Char) :=
  let (digits, rest) := readDigits 10 s
  let value := ofDigits 10 digits
  if digits = [] ∨ 3 < digits.length ∨ (digits.head? = some 0 ∧ 1 < digits.length) ∨ 255 < value then none
  else some (value, rest)

/-- Read a group: at most four hexadecimal digits. -/
def readGroup (s : List Char) : Option (Nat × List Char) :=
  let (digits, rest) := readDigits 16 s
  if digits = [] ∨ 4 < digits.length then none else some (ofDigits 16 digits, rest)

/-- Read a decimal number of any length below a limit. -/
def readBelow (limit : Nat) (s : List Char) : Option (Nat × List Char) :=
  let (digits, rest) := readDigits 10 s
  let value := ofDigits 10 digits
  if digits = [] ∨ limit ≤ value then none else some (value, rest)

/-- Pass over one character. -/
def skip (c : Char) : List Char → Option (List Char)
  | [] => none
  | d :: rest => if d = c then some rest else none

/-- Read four octets with points between them. -/
def readOctets (s : List Char) : Option (List Nat × List Char) := do
  let (a, s) ← readOctet s
  let (b, s) ← readOctet (← skip '.' s)
  let (c, s) ← readOctet (← skip '.' s)
  let (d, s) ← readOctet (← skip '.' s)
  return ([a, b, c, d], s)

/-- Pass over the colon before a group, which the first group does not have. -/
def skipColon (first : Bool) (s : List Char) : Option (List Char) :=
  if first then some s else skip ':' s

/-- Read at most `slots` groups with colons between them, of which the last two may be written as four octets. Tells
whether they are, and leaves what is no group. -/
def readGroups : (slots : Nat) → (first : Bool) → List Char → List Nat × Bool × List Char
  | 0, _, s => ([], false, s)
  | slots + 1, first, s =>
    match if slots = 0 then none else (skipColon first s).bind readOctets with
    | some ([a, b, c, d], rest) => ([a * 256 + b, c * 256 + d], true, rest)
    | _ =>
      match (skipColon first s).bind readGroup with
      | some (group, rest) =>
        let (more, octets, rest) := readGroups slots false rest
        (group :: more, octets, rest)
      | none => ([], false, s)

/-- Read eight groups; a double colon stands for at least one zero group, and octets may stand only at the end. -/
def readV6 (s : List Char) : Option (List Nat × List Char) :=
  let (head, octets, rest) := readGroups 8 true s
  if head.length = 8 then some (head, rest)
  else if octets then none
  else do
    let rest ← skip ':' rest
    let rest ← skip ':' rest
    let (tail, _, rest) := readGroups (7 - head.length) true rest
    return (head ++ List.replicate (8 - head.length - tail.length) 0 ++ tail, rest)

end IpAddress

namespace SocketAddress

open IpAddress (skip readBelow)

/-- The canonical text of an address. -/
def text (a : SocketAddress) : String :=
  let suffix := ":" ++ Text.decimal a.portNumber
  match a.ip with
  | .v4 _ => a.ip.text ++ suffix
  | .v6 _ => "[" ++ a.ip.text ++ (if a.scope = 0 then "" else "%" ++ Text.decimal a.scope) ++ "]" ++ suffix

/-- Read a port after its colon. -/
def readPortNumber (s : List Char) : Option (Nat × List Char) :=
  (skip ':' s).bind (readBelow 0x10000)

/-- Read an address of version 4. -/
def readV4 (s : List Char) : Option (SocketAddress × List Char) := do
  let (octets, s) ← IpAddress.readOctets s
  let (number, s) ← readPortNumber s
  return (⟨.v4 octets, 0, number⟩, s)

/-- Read a scope, which may be missing. -/
def readScope (s : List Char) : Nat × List Char :=
  ((skip '%' s).bind (readBelow 0x100000000)).getD (0, s)

/-- Read an address of version 6. -/
def readV6 (s : List Char) : Option (SocketAddress × List Char) := do
  let (groups, s) ← IpAddress.readV6 (← skip '[' s)
  let (scope, s) := readScope s
  let (number, s) ← readPortNumber (← skip ']' s)
  return (⟨.v6 groups, scope, number⟩, s)

/-- Read an address that takes the whole of a text. -/
def ofText? (s : String) : Option SocketAddress :=
  match (readV4 s.toList).or (readV6 s.toList) with
  | some (address, []) => some address
  | _ => none

end SocketAddress

end ResourceApi
