import IolHat.Lib.Buffer

/-!
# The format of a request ISDU

An indexed service data unit carries one service between a master and a device. A request is,
octet by octet: the I-service (upper nibble) with the length (lower nibble); the extended length,
if the nibble is 1; the index, in one octet, in one octet with a subindex, or in two octets with a
subindex, as the I-service says; the data; and a check octet that brings the exclusive-or of all
octets to zero. The length counts every octet.

`parse` reads a request from its octets, and accepts nothing else. It leaves the choice between the
nibble and the extended length open, and has no upper bound but that of an octet.
`parse_of_layout` is its rule: whatever is laid out as above is parsed.
-/

namespace IsduFormat

open Octets

/-- The direction of a service. -/
inductive Direction
  | read | write
  deriving DecidableEq, Repr

/-- How the parameter is addressed. -/
inductive Form
  | index8 | index8Sub | index16
  deriving DecidableEq, Repr

/-- A request. An index without subindex has subindex 0. -/
structure Request where
  direction : Direction
  index : UInt16
  subindex : UInt8
  data : List UInt8
  deriving DecidableEq

/-- The size of the ISDU for a request: one octet for the service and the length, the address, the
data, the check octet, and one octet for the length if it does not fit the nibble. -/
def Request.size (r : Request) : ℕ :=
  let address := if r.index < 256 then (if r.subindex = 0 then 1 else 2) else 3
  let size := r.data.length + address + 2
  if size < 16 then size else size + 1

/-- The code of a service. -/
def service : Direction → Form → UInt8
  | .write, .index8 => 0x1
  | .write, .index8Sub => 0x2
  | .write, .index16 => 0x3
  | .read, .index8 => 0x9
  | .read, .index8Sub => 0xA
  | .read, .index16 => 0xB

/-- The service with a code. -/
def ofService (code : UInt8) : Option (Direction × Form) :=
  [(.write, .index8), (.write, .index8Sub), (.write, .index16),
    (.read, .index8), (.read, .index8Sub), (.read, .index16)].find?
      fun s : Direction × Form => decide (service s.1 s.2 = code)

theorem ofService_service (d : Direction) (f : Form) : ofService (service d f) = some (d, f) := by
  cases d <;> cases f <;> rfl

/-! ### The parser -/

/-- The length field and what comes after it. -/
def parseLength : List UInt8 → Option (ℕ × List UInt8)
  | [] => none
  | h :: rest =>
    if h &&& 0x0F = 1 then
      match rest with
      | [] => none
      | ext :: rest => if 17 ≤ ext.toNat then some (ext.toNat, rest) else none
    else if 3 ≤ (h &&& 0x0F).toNat then some ((h &&& 0x0F).toNat, rest)
    else none

/-- Index, subindex and what comes after them. -/
def parseAddress : Form → List UInt8 → Option (UInt16 × UInt8 × List UInt8)
  | .index8, i :: rest => some (i.toUInt16, 0, rest)
  | .index8Sub, i :: s :: rest => some (i.toUInt16, s, rest)
  | .index16, hi :: lo :: s :: rest => some (.ofNat (hi.toNat * 256 + lo.toNat), s, rest)
  | _, _ => none

/-- A request from its octets: the length field counts them, their exclusive-or is zero, and the
last octet, the check octet, follows at least an address. -/
def parse (octets : List UInt8) : Option Request := do
  let (direction, form) ← ofService (octets.headD 0 >>> 4)
  let (len, body) ← parseLength octets
  let (index, subindex, rest) ← parseAddress form body
  if len = octets.length ∧ xorSum octets = 0 ∧ rest ≠ [] then
    some ⟨direction, index, subindex, rest.dropLast⟩
  else none

/-- **The layout of a request.** -/
theorem parse_of_layout {octets body data : List UInt8} {d : Direction} {f : Form}
    {index : UInt16} {subindex check : UInt8} (hservice : octets.headD 0 >>> 4 = service d f)
    (hlen : parseLength octets = some (octets.length, body))
    (haddress : parseAddress f body = some (index, subindex, data ++ [check]))
    (hxor : xorSum octets = 0) : parse octets = some ⟨d, index, subindex, data⟩ := by
  have hrest : data ++ [check] ≠ [] := List.append_ne_nil_of_right_ne_nil _ (List.cons_ne_nil _ _)
  simp only [parse, hservice, ofService_service, hlen, haddress, Option.bind_eq_bind,
    Option.bind_some]
  rw [if_pos ⟨trivial, hxor, hrest⟩, List.dropLast_concat]

/-- Two octets of an index. -/
theorem ofNat_octets (n : UInt16) :
    UInt16.ofNat ((n >>> 8).toUInt8.toNat * 256 + n.toUInt8.toNat) = n := by
  have hn := n.toNat_lt
  have hhi : (n >>> 8).toUInt8.toNat = n.toNat / 256 := by
    simp [Nat.shiftRight_eq_div_pow]
    omega
  have hlo : n.toUInt8.toNat = n.toNat % 256 := by simp
  rw [hhi, hlo, Nat.div_add_mod']
  exact UInt16.ofNat_toNat

end IsduFormat
