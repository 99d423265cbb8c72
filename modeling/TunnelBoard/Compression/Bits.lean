import TunnelBoard.Compression.Flaw
import TunnelBoard.Text.Utf8

/-!
# Bits

Compressed data is a sequence of bits, those of the least weight first in each
byte.  A reader takes some bits from the front; the bits may end too early, and
they may be flawed.
-/

namespace TunnelBoard
namespace Compression

abbrev Bits := List Bool

namespace Bits

/-- The bits of a byte, that of the least weight first. -/
def ofByte (b : UInt8) : Bits := (List.range 8).map fun i => b.toNat.testBit i

def ofBytes (bytes : Bytes) : Bits := bytes.flatMap ofByte

/-- The number whose bits are given, that of the least weight first. -/
def value : Bits → Nat
  | [] => 0
  | b :: rest => b.toNat + 2 * value rest

/-- The bits from the next byte on, given the rest of the bits of some bytes. -/
def aligned (bits : Bits) : Bits := bits.drop (bits.length % 8)

end Bits

/-- What becomes of reading bits. -/
inductive Reading (α : Type) where
  | done (a : α) (rest : Bits)
  | ended
  | flawed (flaw : Flaw)

/-- A way to read bits. -/
def Reader (α : Type) : Type := Bits → Reading α

namespace Reader

/-- Reads nothing. -/
def give {α : Type} (a : α) : Reader α := fun bits => .done a bits

/-- Reads with one reader, and goes on with another one that depends on its result. -/
def andThen {α β : Type} (r : Reader α) (next : α → Reader β) : Reader β := fun bits =>
  match r bits with
  | .done a rest => next a rest
  | .ended => .ended
  | .flawed flaw => .flawed flaw

instance : Monad Reader where
  pure := give
  bind := andThen

def fail {α : Type} (flaw : Flaw) : Reader α := fun _ => .flawed flaw

def number (n : Nat) : Reader Nat := fun bits =>
  if (bits.take n).length < n then .ended else .done (Bits.value (bits.take n)) (bits.drop n)

def numbers (n : Nat) : Nat → Reader (List Nat)
  | 0 => give []
  | count + 1 => do
      let first ← number n
      let rest ← numbers n count
      give (first :: rest)

/-- Goes to the start of the next byte. -/
def align : Reader Unit := fun bits => .done () bits.aligned

end Reader
end Compression
end TunnelBoard
