import ControlLoop.Wire.Format

/-!
# Texts on the wire

A text has at most the size that its type says; the size is the number of its bytes in UTF-8. On the wire it is its
size and then its bytes. That the bytes are there comes first, that they are a text second, and that the text fits its
capacity last.
-/

namespace ControlLoop

set_option autoImplicit false

structure BoundedText (capacity : Nat) where
  text : String
  fits : text.utf8ByteSize ≤ capacity
deriving DecidableEq

namespace BoundedText

variable {capacity : Nat}

def of? (capacity : Nat) (text : String) : Option (BoundedText capacity) :=
  if fits : text.utf8ByteSize ≤ capacity then some ⟨text, fits⟩ else none

def empty : BoundedText capacity := ⟨"", Nat.zero_le _⟩

/-- The text with `piece` behind it, if that fits. -/
def append? (t : BoundedText capacity) (piece : String) : Option (BoundedText capacity) :=
  of? capacity (t.text ++ piece)

/-- Appends piece after piece up to the first that does not fit. -/
def appendAll (t : BoundedText capacity) : List String → BoundedText capacity
  | [] => t
  | piece :: rest =>
    match t.append? piece with
    | some longer => longer.appendAll rest
    | none => t

end BoundedText

namespace Wire.Format

/-- A number of bytes, and the bytes. -/
def bytes : Format (List UInt8) where
  write bs := Varint.write bs.length ++ bs
  read input := do
    let (n, rest) ← Varint.read Varint.word64 input
    if rest.length < n then .error .unexpectedEnd else .ok (rest.take n, rest.drop n)

def text (capacity : Nat) : Format (BoundedText capacity) where
  write t := bytes.write t.text.toUTF8.data.toList
  read input := do
    let (bs, rest) ← bytes.read input
    match String.fromUTF8? ⟨bs.toArray⟩ with
    | none => .error .badUtf8
    | some s =>
      match BoundedText.of? capacity s with
      | none => .error .rejected
      | some t => .ok (t, rest)

end Wire.Format

end ControlLoop
