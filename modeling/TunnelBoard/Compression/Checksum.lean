import TunnelBoard.Text.Utf8

/-!
# Checksums

Two numbers that tell whether bytes have changed on their way: the remainder of
a division of polynomials, and two sums modulo a prime.
-/

namespace TunnelBoard
namespace Compression

/-- One step of the division of polynomials with coefficients modulo two. -/
def divideStep (r : UInt32) : UInt32 :=
  if r % 2 = 1 then (r >>> 1) ^^^ 0xEDB88320 else r >>> 1

/-- Takes a byte into a remainder. -/
def divideByte (r : UInt32) (b : UInt8) : UInt32 := Nat.repeat divideStep 8 (r ^^^ b.toUInt32)

/-- The remainder of bytes in the division by the usual polynomial of degree 32. -/
def crc32 (bytes : Bytes) : Nat :=
  ((bytes.foldl divideByte 0xFFFFFFFF) ^^^ 0xFFFFFFFF).toNat

/-- The sum of bytes and the sum of these sums, modulo the greatest prime below 65536. -/
def sums (bytes : Bytes) : Nat × Nat :=
  bytes.foldl
    (fun (a, b) x =>
      let a := (a + x.toNat) % 65521
      (a, (b + a) % 65521))
    (1, 0)

/-- The two sums of bytes as one number. -/
def adler32 (bytes : Bytes) : Nat :=
  let (a, b) := sums bytes
  b * 0x10000 + a

end Compression
end TunnelBoard
