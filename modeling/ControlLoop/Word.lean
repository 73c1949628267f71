/-!
# Words, faults and rounding

The ways in which a calculation has no answer at all are its faults, programming errors of the caller, kept apart from
the errors that a device or a wire format reports. An exact result is kept when it is representable in a signed word and
is a fault otherwise, so that a calculation that ends without a fault was exact throughout. An exact quotient is rounded
to the nearest integer in two ways, which differ at a half: it goes to the even neighbour or up.
-/

namespace ControlLoop

set_option autoImplicit false

/-- The operations whose exact result can fall outside its word. -/
inductive Arithmetic where
  | add
  | subtract
  | multiply
  | divide
deriving DecidableEq, Repr

def Arithmetic.verb : Arithmetic → String
  | .add => "add"
  | .subtract => "subtract"
  | .multiply => "multiply"
  | .divide => "divide"

inductive Fault where
  | divideByZero
  | overflow (op : Arithmetic)
  | notANumber
  /-- A tick of this many milliseconds is longer than any number of the format. -/
  | tickTooLong (ms : Nat)
deriving DecidableEq, Repr

def Fault.message : Fault → String
  | .divideByZero => "attempt to divide by zero"
  | .overflow op => s!"attempt to {op.verb} with overflow"
  | .notANumber => "NaN"
  | .tickTooLong ms => s!"{ms} overflows"

/-! ## Signed words -/

namespace Word

inductive Size where
  | bits32
  | bits64
deriving DecidableEq, Repr

/-- A word holds the numbers from minus its bound up to its bound, the bound excluded. -/
def Size.bound : Size → Int
  | .bits32 => 2147483648
  | .bits64 => 9223372036854775808

/-- The integers of a signed word. -/
def Holds (size : Size) (n : Int) : Prop := -size.bound ≤ n ∧ n < size.bound

instance (size : Size) (n : Int) : Decidable (Holds size n) := inferInstanceAs (Decidable (_ ∧ _))

theorem holds_bits32 {n : Int} : Holds .bits32 n ↔ -2147483648 ≤ n ∧ n < 2147483648 := Iff.rfl

theorem holds_bits64 {n : Int} : Holds .bits64 n ↔ -9223372036854775808 ≤ n ∧ n < 9223372036854775808 := Iff.rfl

/-- The result `n` of `op`, provided that the word holds it. -/
def exact (size : Size) (op : Arithmetic) (n : Int) : Except Fault Int :=
  if Holds size n then .ok n else .error (.overflow op)

theorem exact_eq_ok {size : Size} {op : Arithmetic} {n : Int} (h : Holds size n) : exact size op n = .ok n :=
  if_pos h

end Word

/-! ## Rounding a quotient -/

namespace Rounding

/-- The integer nearest to `num / den`; a half goes to the even neighbour. -/
def toEven (num : Int) (den : Nat) : Int :=
  let q := num / den
  let r := num % den
  if 2 * r < den then q
  else if den < 2 * r then q + 1
  else q + q % 2

/-- The integer nearest to `num / den`; a half goes up. -/
def halfUp (num : Int) (den : Nat) : Int := (2 * num + den) / (2 * den)

end Rounding

end ControlLoop
