import DatasetCatalog.Text.Decimal

/-!
# Socket addresses

A socket address is a host and the number of a service on it, with a colon between them. A host is
an address of four octets, written in decimal with points, or one of eight groups of 16 bits,
written in hexadecimal with colons and in brackets; the latter may have the number of a zone after a
percent sign.

Two colons stand for a run of groups that are zero. `SocketAddress.text` uses them for the longest
such run of at least two, the first one if there are several. Reading accepts them anywhere, and
also an address of octets in place of the last two groups.
-/

namespace DatasetCatalog

/-- An address of eight groups. -/
structure Groups where
  values : List UInt16
  length_values : values.length = 8
  deriving DecidableEq, Repr

/-- A host. -/
inductive Host
  | octets (a b c d : UInt8)
  | groups (g : Groups) (zone : UInt32)
  deriving DecidableEq, Repr

/-- A host and the number of a service on it. -/
structure SocketAddress where
  host : Host
  service : UInt16
  deriving DecidableEq, Repr

namespace SocketAddress

/-! ## Writing -/

/-- Four octets as they are written. -/
def octetsText (a b c d : UInt8) : List Char :=
  Decimal.digits a.toNat ++ ['.'] ++ Decimal.digits b.toNat ++ ['.'] ++ Decimal.digits c.toNat ++
    ['.'] ++ Decimal.digits d.toNat

/-- Groups with colons between them. -/
def joinGroups : List UInt16 → List Char
  | [] => []
  | [g] => Hex.digits g.toNat
  | g :: gs => Hex.digits g.toNat ++ [':'] ++ joinGroups gs

/-- How many groups at the front are zero. -/
def zerosAhead (gs : List UInt16) : Nat := (gs.takeWhile (· = 0)).length

/-- Where the longest run of zero groups starts and how long it is; of several the first one. -/
def longestZeros : List UInt16 → Nat × Nat
  | [] => (0, 0)
  | g :: gs =>
    let here := zerosAhead (g :: gs)
    let (start, length) := longestZeros gs
    if length ≤ here then (0, here) else (start + 1, length)

/-- The octets that groups stand for, if they are the form of an address of octets. -/
def mapped? : List UInt16 → Option (UInt8 × UInt8 × UInt8 × UInt8)
  | [0, 0, 0, 0, 0, 0xffff, x, y] =>
    some ((x >>> 8).toUInt8, x.toUInt8, (y >>> 8).toUInt8, y.toUInt8)
  | _ => none

/-- Eight groups as they are written. -/
def groupsText (gs : List UInt16) : List Char :=
  match mapped? gs with
  | some (a, b, c, d) => "::ffff:".toList ++ octetsText a b c d
  | none =>
    let (start, length) := longestZeros gs
    if 1 < length then
      joinGroups (gs.take start) ++ [':', ':'] ++ joinGroups (gs.drop (start + length))
    else joinGroups gs

/-- The zone after a host, which is left out if it is zero. -/
def zoneText (zone : UInt32) : List Char :=
  if zone = 0 then [] else ['%'] ++ Decimal.digits zone.toNat

/-- A host as it is written in front of the colon. -/
def hostText : Host → List Char
  | .octets a b c d => octetsText a b c d
  | .groups g zone => ['['] ++ groupsText g.values ++ zoneText zone ++ [']']

/-- The address as it is written. -/
def text (a : SocketAddress) : String :=
  String.ofList (hostText a.host ++ [':'] ++ Decimal.digits a.service.toNat)

/-! ## Reading -/

/-- Takes one given character off. -/
def take (c : Char) : List Char → Option (List Char)
  | d :: rest => if d = c then some rest else none
  | [] => none

/-- Reads a decimal number below a bound. -/
def decimal (bound : Nat) (cs : List Char) : Option (Nat × List Char) :=
  let ds := cs.takeWhile fun c => (Decimal.digitValue? c).isSome
  let n := Decimal.value ds
  if ds.isEmpty ∨ bound ≤ n then none else some (n, cs.drop ds.length)

/-- Reads an octet. It has no needless zero in front. -/
def octet (cs : List Char) : Option (UInt8 × List Char) := do
  let (n, rest) ← decimal 256 cs
  if cs.take (cs.length - rest.length) = Decimal.digits n then some (UInt8.ofNat n, rest) else none

/-- Reads four octets. -/
def octets (cs : List Char) : Option ((UInt8 × UInt8 × UInt8 × UInt8) × List Char) := do
  let (a, cs) ← octet cs
  let (b, cs) ← octet (← take '.' cs)
  let (c, cs) ← octet (← take '.' cs)
  let (d, cs) ← octet (← take '.' cs)
  return ((a, b, c, d), cs)

/-- Reads a group of at most four digits. -/
def group (cs : List Char) : Option (UInt16 × List Char) :=
  let ds := cs.takeWhile fun c => (Hex.digitValue? c).isSome
  match Hex.value? ds with
  | some n => if ds.isEmpty ∨ 4 < ds.length then none else some (UInt16.ofNat n, cs.drop ds.length)
  | none => none

/-- The two groups that four octets stand for. -/
def groupsOf (a b c d : UInt8) : List UInt16 :=
  [UInt16.ofNat (256 * a.toNat + b.toNat), UInt16.ofNat (256 * c.toNat + d.toNat)]

/-- Takes off what stands between two groups. -/
def separator (first : Bool) (cs : List Char) : Option (List Char) :=
  if first then some cs else take ':' cs

/-- Groups at the front of a text, whether the last of them were octets, and the rest. -/
structure Front where
  values : List UInt16
  endsInOctets : Bool
  rest : List Char

/-- Reads as many groups as there are, and not more than `most`. -/
def readGroups : (most : Nat) → (first : Bool) → List Char → Front
  | 0, _, cs => ⟨[], false, cs⟩
  | most + 1, first, cs =>
    match if most = 0 then none else (separator first cs).bind octets with
    | some ((a, b, c, d), rest) => ⟨groupsOf a b c d, true, rest⟩
    | none =>
      match (separator first cs).bind group with
      | some (g, rest) =>
        let front := readGroups most false rest
        ⟨g :: front.values, front.endsInOctets, front.rest⟩
      | none => ⟨[], false, cs⟩

/-- Eight groups, if there are so many. -/
def ofList? (gs : List UInt16) : Option Groups := if h : gs.length = 8 then some ⟨gs, h⟩ else none

/-- Reads eight groups, some of which two colons may stand for. -/
def readHost (cs : List Char) : Option (Groups × List Char) := do
  let head := readGroups 8 true cs
  if head.values.length = 8 then return (← ofList? head.values, head.rest)
  else if head.endsInOctets then none
  else
    let rest ← take ':' (← take ':' head.rest)
    let tail := readGroups (7 - head.values.length) true rest
    let zeros := List.replicate (8 - head.values.length - tail.values.length) 0
    return (← ofList? (head.values ++ zeros ++ tail.values), tail.rest)

/-- Reads a zone, if there is one. -/
def readZone (cs : List Char) : UInt32 × List Char :=
  match (take '%' cs).bind (decimal (Nat.pow 2 32)) with
  | some (n, rest) => (UInt32.ofNat n, rest)
  | none => (0, cs)

/-- Reads a colon and the number of a service. Nothing may follow. -/
def readService (cs : List Char) : Option UInt16 := do
  let (n, rest) ← decimal (Nat.pow 2 16) (← take ':' cs)
  if rest.isEmpty then some (UInt16.ofNat n) else none

/-- The address that a text is. -/
def parse? (text : String) : Option SocketAddress :=
  let cs := text.toList
  match octets cs with
  | some ((a, b, c, d), rest) => (readService rest).map fun service => ⟨.octets a b c d, service⟩
  | none => do
    let (g, rest) ← readHost (← take '[' cs)
    let (zone, rest) := readZone rest
    let service ← readService (← take ']' rest)
    return ⟨.groups g zone, service⟩

end SocketAddress

end DatasetCatalog
