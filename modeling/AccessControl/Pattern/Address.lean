import AccessControl.Number.Basic
import AccessControl.Text.Blank

/-!
# Network addresses

Addresses of 32 and of 128 bits and the networks that contain them.  A network is
written as an address with an optional mask, a number of leading bits or, for the
shorter addresses, a pattern of bits.
-/

namespace AccessControl

/-- The two lengths of address. -/
inductive AddressFamily where
  | short
  | long
  deriving DecidableEq, Inhabited

/-- The number of bits of an address. -/
def AddressFamily.bits : AddressFamily → Nat
  | .short => 32
  | .long => 128

/-- An address. -/
structure Address where
  family : AddressFamily
  number : Nat
  deriving DecidableEq, Inhabited

/-- A network: the addresses that share their first `length` bits with `base`. -/
structure Network where
  base : Address
  length : Nat
  deriving DecidableEq, Inhabited

namespace Address

/-! ### Short addresses -/

/-- The number written by decimal digits. -/
def decimal? (cs : List Char) : Option Nat :=
  if cs.isEmpty || !cs.all Char.isDigit then none
  else some (cs.foldl (fun n c => 10 * n + (c.toNat - '0'.toNat)) 0)

/-- A number below 256 without needless zeros. -/
def octet? (cs : List Char) : Option Nat :=
  if 3 < cs.length ∨ (cs.head? = some '0' ∧ cs ≠ ['0']) then none
  else
    match decimal? cs with
    | some n => if n < 256 then some n else none
    | none => none

/-- The number of a short address: four octets with dots between them. -/
def shortNumber? (cs : List Char) : Option Nat :=
  match splitAt '.' cs with
  | [a, b, c, d] =>
    match octet? a, octet? b, octet? c, octet? d with
    | some a, some b, some c, some d => some (((a * 256 + b) * 256 + c) * 256 + d)
    | _, _, _, _ => none
  | _ => none

/-! ### Long addresses -/

/-- The value of a hexadecimal digit. -/
def hexValue? (c : Char) : Option Nat :=
  if c.isDigit then some (c.toNat - '0'.toNat)
  else if ('a' ≤ c ∧ c ≤ 'f') ∨ ('A' ≤ c ∧ c ≤ 'F') then
    some (c.toLower.toNat - 'a'.toNat + 10)
  else none

/-- A number of one to four hexadecimal digits. -/
def hextet? (cs : List Char) : Option Nat :=
  if cs.isEmpty || 4 < cs.length then none
  else
    cs.foldl (fun n? c => n?.bind fun n => (hexValue? c).map fun d => 16 * n + d) (some 0)

/-- The number of several groups of sixteen bits. -/
def joinHextets? (parts : List (List Char)) : Option Nat :=
  parts.foldl (fun n? p => n?.bind fun n => (hextet? p).map fun h => 65536 * n + h) (some 0)

/-- The groups of a long address, where a short address at the end stands for two. -/
def expandSuffix? (parts : List (List Char)) : Option (List (List Char)) :=
  match parts.getLast? with
  | none => some parts
  | some last =>
    if last.contains '.' then
      (shortNumber? last).map fun n =>
        parts.dropLast ++ [Nat.toDigits 16 (n / 65536), Nat.toDigits 16 (n % 65536)]
    else some parts

/-- The positions of the empty groups other than the first and the last. -/
def innerGaps (parts : List (List Char)) : List Nat :=
  (List.range parts.length).filter fun i =>
    0 < i && i + 1 < parts.length && (parts[i]?).any List.isEmpty

/-- The groups beside a gap without the empty one at the end of the text; nothing else
may stand before an empty group there. -/
def sideOfGap? (side : List (List Char)) (outermost : Option (List Char)) :
    Option (List (List Char)) :=
  if outermost = some [] then if side.length ≤ 1 then some [] else none else some side

/-- The number of a long address. -/
def longNumber? (cs : List Char) : Option Nat := do
  let parts := splitAt ':' cs
  if parts.length < 3 then none
  let parts ← expandSuffix? parts
  if 9 < parts.length then none
  match innerGaps parts with
  | [] => if parts.length = 8 then joinHextets? parts else none
  | [gap] =>
    let left ← sideOfGap? (parts.take gap) parts.head?
    let right ← sideOfGap? (parts.drop (gap + 1)) parts.getLast?
    if 7 < left.length + right.length then none
    let high ← joinHextets? left
    let low ← joinHextets? right
    some (high * twoPow (16 * (8 - left.length)) + low)
  | _ => none

/-- The text of a long address without its zone, which is not empty and has no second
mark. -/
def withoutZone? (cs : List Char) : Option (List Char) :=
  match splitAt '%' cs with
  | [address] => some address
  | [address, zone] => if zone.isEmpty then none else some address
  | _ => none

/-- Reads an address. -/
def ofText? (cs : List Char) : Option Address :=
  if cs.contains '/' then none
  else
    match shortNumber? cs with
    | some n => some ⟨.short, n⟩
    | none => ((withoutZone? cs).bind longNumber?).map fun n => ⟨.long, n⟩

end Address

namespace Network

/-- The numbers of two addresses agree in their first `length` bits. -/
def agree (family : AddressFamily) (length m n : Nat) : Bool :=
  m / twoPow (family.bits - length) == n / twoPow (family.bits - length)

/-- The network contains an address of its family. -/
def contains (network : Network) (a : Address) : Bool :=
  a.family == network.base.family && agree a.family network.length a.number network.base.number

/-- The number of leading ones of a pattern of 32 bits that has only zeros after
them. -/
def leadingOnes? (n : Nat) : Option Nat :=
  (List.range 33).find? fun k => n == twoPow 32 - twoPow (32 - k)

/-- The length that a mask writes: a number of bits, or for short addresses the bits
themselves or their complement. -/
def maskLength? (family : AddressFamily) (cs : List Char) : Option Nat :=
  let direct := (Address.decimal? cs).bind fun n => if n ≤ family.bits then some n else none
  match direct, family with
  | some n, _ => some n
  | none, .long => none
  | none, .short => do
    let n ← Address.shortNumber? cs
    match leadingOnes? n with
    | some k => some k
    | none => leadingOnes? (twoPow 32 - 1 - n)

/-- Reads a network. -/
def ofText? (cs : List Char) : Option Network :=
  match splitAt '/' cs with
  | [address] => (Address.ofText? address).map fun a => ⟨a, a.family.bits⟩
  | [address, mask] => do
    let a ← Address.ofText? address
    let length ← maskLength? a.family mask
    some ⟨a, length⟩
  | _ => none

end Network

end AccessControl
