import ControlLoop.Fixed.Arithmetic
import ControlLoop.Wire.Bytes

/-!
# Wire formats

A format says how the values of a type are laid out in bytes. Its reader consumes a value from the front of the input
and leaves the rest, so that the format of a record is the formats of its fields one after the other and a value
needs no end mark.
-/

namespace ControlLoop.Wire

set_option autoImplicit false

structure Format (α : Type) where
  write : α → List UInt8
  read : List UInt8 → Except Error (α × List UInt8)

namespace Format

variable {α β : Type}

/-- The values of one type written as those of another. -/
def map (f : Format α) (decode : α → β) (encode : β → α) : Format β where
  write b := f.write (encode b)
  read input := do
    let (a, rest) ← f.read input
    return (decode a, rest)

def unit : Format Unit where
  write _ := []
  read input := .ok ((), input)

def both (f : Format α) (g : Format β) : Format (α × β) where
  write p := f.write p.1 ++ g.write p.2
  read input := do
    let (a, rest) ← f.read input
    let (b, rest) ← g.read rest
    return ((a, b), rest)

/-- A choice of two, numbered zero and one. -/
def either (f : Format α) (g : Format β) : Format (α ⊕ β) where
  write
    | .inl a => Varint.write 0 ++ f.write a
    | .inr b => Varint.write 1 ++ g.write b
  read input := do
    let (index, rest) ← Varint.read Varint.word32 input
    match index with
    | 0 =>
      let (a, rest) ← f.read rest
      return (.inl a, rest)
    | 1 =>
      let (b, rest) ← g.read rest
      return (.inr b, rest)
    | _ => .error .rejected

def varint (w : Varint.Width) : Format Nat := ⟨Varint.write, Varint.read w⟩

def byte : Format UInt8 where
  write b := [b]
  read
    | [] => .error .unexpectedEnd
    | b :: rest => .ok (b, rest)

def bool : Format Bool where
  write b := [if b then 1 else 0]
  read
    | [] => .error .unexpectedEnd
    | b :: rest => if b = 0 then .ok (false, rest) else if b = 1 then .ok (true, rest) else .error .badBool

def uint16 : Format UInt16 := (varint Varint.word16).map UInt16.ofNat UInt16.toNat

def uint32 : Format UInt32 := (varint Varint.word32).map UInt32.ofNat UInt32.toNat

def uint64 : Format UInt64 := (varint Varint.word64).map UInt64.ofNat UInt64.toNat

/-- Four bytes, the low one first. -/
def single : Format Single :=
  (byte.both (byte.both (byte.both byte))).map
    (fun (a, b, c, d) => ⟨UInt32.ofNat (a.toNat + 256 * b.toNat + 65536 * c.toNat + 16777216 * d.toNat)⟩)
    (fun x =>
      let n := x.bits.toNat
      (UInt8.ofNat n, UInt8.ofNat (n / 256), UInt8.ofNat (n / 65536), UInt8.ofNat (n / 16777216)))

/-- A signed number as a natural number: the sign goes to the lowest bit. -/
def zigzag (n : Int) : Nat := if 0 ≤ n then 2 * n.natAbs else 2 * n.natAbs - 1

def unzigzag (n : Nat) : Int := if n % 2 = 0 then n / 2 else -((n + 1) / 2)

def fixed : Format Fixed :=
  (varint Varint.word32).map (fun n => Fixed.wrap (unzigzag n)) (fun x => zigzag x.raw)

/-- Writes a value into a buffer of `capacity` bytes. -/
def encode (f : Format α) (capacity : Nat) (a : α) : Except Error (List UInt8) :=
  if (f.write a).length ≤ capacity then .ok (f.write a) else .error .bufferFull

/-- Reads a value; what follows it is ignored. -/
def decode (f : Format α) (input : List UInt8) : Except Error α := (f.read input).map (·.1)

end Format

end ControlLoop.Wire
