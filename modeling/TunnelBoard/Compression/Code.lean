import TunnelBoard.Compression.Bits

/-!
# Prefix codes

A prefix code gives some symbols codes of bits, none of which starts with
another one.  The lengths of the codes determine it: codes of one length are
consecutive numbers in the order of their symbols, and they follow the shorter
codes.
-/

namespace TunnelBoard
namespace Compression

/-- The symbols with codes of one bit, of two bits, and so on, in the order of their codes. -/
structure Code where
  levels : List (Array Nat)

namespace Code

/-- The symbols whose codes have some length, given the lengths of all codes; zero is no code. -/
def symbols (lengths : List Nat) (n : Nat) : Array Nat :=
  (lengths.zipIdx.filterMap fun (length, symbol) =>
    if length = n then some symbol else none).toArray

/-- The code with the given lengths of the codes of the symbols from zero on. -/
def ofLengths (lengths : List Nat) : Code :=
  ⟨(List.range (max 1 (lengths.foldl max 0))).map fun n => symbols lengths (n + 1)⟩

/-- The number of codes that are left over at the last level, unless there are too many symbols. -/
def unused? : List (Array Nat) → Nat → Option Nat
  | [], left => some left
  | level :: rest, left =>
      if 2 * left < level.size then none else unused? rest (2 * left - level.size)

/-- Whether every sequence of bits starts with a code. -/
def isComplete (code : Code) : Bool := unused? code.levels 1 = some 0

/-- Whether there is no code at all. -/
def isEmpty (code : Code) : Bool := code.levels.all Array.isEmpty

/-- Whether the code is complete, or has at most one code, of one bit. -/
def isUsable (code : Code) : Bool :=
  code.isComplete || (code.levels.length = 1 && (unused? code.levels 1).isSome)

/--
Reads a symbol with one of the remaining levels, given the number of codes of
the level before that come before the bits read so far but are no codes.
-/
def readFrom : List (Array Nat) → Nat → Reader (Option Nat)
  | [], _ => Reader.give none
  | level :: deeper, offset => fun bits =>
      match bits with
      | [] => .ended
      | b :: rest =>
          let offset := 2 * offset + b.toNat
          match level[offset]? with
          | some symbol => .done (some symbol) rest
          | none => readFrom deeper (offset - level.size) rest

/-- Reads a symbol, if the bits are a code. -/
def read (code : Code) : Reader (Option Nat) := readFrom code.levels 0

end Code
end Compression
end TunnelBoard
