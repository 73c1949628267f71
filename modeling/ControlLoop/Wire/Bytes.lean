/-!
# Bytes on the wire

What can go wrong in reading and writing, integers of variable length, and the stuffing that lets a zero end a frame.
-/

namespace ControlLoop

set_option autoImplicit false

namespace Wire

inductive Error where
  | bufferFull
  | unexpectedEnd
  | badVarint
  | badBool
  | badUtf8
  /-- The stuffing of a frame is broken. -/
  | badEncoding
  /-- A well-formed value that its type does not admit. -/
  | rejected
deriving DecidableEq, Repr

def Error.message : Error → String
  | .bufferFull => "The serialize buffer is full"
  | .unexpectedEnd => "Hit the end of buffer, expected more data"
  | .badVarint => "Found a varint that didn't terminate. Is the usize too big for this platform?"
  | .badBool => "Found a bool that wasn't 0 or 1"
  | .badUtf8 => "Tried to parse invalid utf-8"
  | .badEncoding => "The original data was not well encoded"
  | .rejected => "Serde Deserialization Error"

end Wire

/-! ## Integers of variable length

A number is written in groups of seven bits, the low group first, and every byte but the last has its high bit set.
A reader takes at most a fixed number of groups and bounds the last of them, so that what it reads fits its word.
Groups of zeros at the high end are accepted.
-/

namespace Wire.Varint

def write (n : Nat) : List UInt8 :=
  if n < 128 then [UInt8.ofNat n] else UInt8.ofNat (n % 128 + 128) :: write (n / 128)
termination_by n
decreasing_by omega

/-- How many groups a word takes at most, and the greatest last group. -/
structure Width where
  groups : Nat
  last : Nat

def word16 : Width := ⟨3, 3⟩

def word32 : Width := ⟨5, 15⟩

def word64 : Width := ⟨10, 1⟩

/-- Reads a number of at most `groups` groups and leaves the rest of the input. -/
def readGroups (last : Nat) : Nat → List UInt8 → Except Error (Nat × List UInt8)
  | 0, _ => .error .badVarint
  | _ + 1, [] => .error .unexpectedEnd
  | groups + 1, b :: rest =>
    if b.toNat < 128 then
      if groups = 0 ∧ last < b.toNat then .error .badVarint else .ok (b.toNat, rest)
    else do
      let (n, rest) ← readGroups last groups rest
      return (b.toNat - 128 + 128 * n, rest)

def read (w : Width) (input : List UInt8) : Except Error (Nat × List UInt8) := readGroups w.last w.groups input

end Wire.Varint

/-! ## Byte stuffing

Consistent overhead byte stuffing removes all zeros from a string of bytes, so that a zero can end every frame. The
bytes are cut at the zeros, and each piece is preceded by its length plus one; a length byte of 255 stands for a
piece of 254 bytes that was not followed by a zero.
-/

namespace Wire.Cobs

/-- Stuffs the piece that has been collected so far and the bytes after it. -/
def stuffFrom (piece : List UInt8) : List UInt8 → List UInt8
  | [] => UInt8.ofNat (piece.length + 1) :: piece
  | b :: rest =>
    if b = 0 then UInt8.ofNat (piece.length + 1) :: piece ++ stuffFrom [] rest
    else if piece.length = 253 then 255 :: piece ++ b :: stuffFrom [] rest
    else stuffFrom (piece ++ [b]) rest

def stuff (data : List UInt8) : List UInt8 := stuffFrom [] data

/-- Takes the pieces apart again, with a zero between two of them unless the first is a full one. -/
def unstuff : List UInt8 → Except Error (List UInt8)
  | [] => .ok []
  | code :: rest =>
    let length := code.toNat - 1
    let piece := rest.take length
    let after := rest.drop length
    if piece.length < length then .error .badEncoding
    else do
      let tail ← unstuff after
      return piece ++ (if code = 255 ∨ after.isEmpty then [] else [0]) ++ tail
termination_by input => input.length
decreasing_by simp only [List.length_drop, List.length_cons]; omega

def frame (data : List UInt8) : List UInt8 := stuff data ++ [0]

/-- The bytes of the first frame of the input. Its zero may be missing, and what follows it is ignored. -/
def unframe (input : List UInt8) : Except Error (List UInt8) :=
  if input.isEmpty then .error .badEncoding else unstuff (input.takeWhile (· != 0))

end Wire.Cobs

end ControlLoop
