import TunnelBoard.Compression.Checksum
import TunnelBoard.Compression.Deflate

/-!
# Containers

Compressed data stands between a header and a trailer.  There are two kinds of
containers: files, whose headers have optional fields, and streams, whose
headers have two bytes.  Whatever stands behind the trailer is left alone.
-/

namespace TunnelBoard
namespace Compression

/-- What compressed data stands for, with a check of the bits behind it. -/
def checked (check : Bytes → Bits → Option Flaw) (body : Bytes) : Except Flaw Bytes := do
  let inflated ← inflate (Bits.ofBytes body)
  let bytes := inflated.bytes.toList
  match inflated.rest.bind fun rest => check bytes rest.aligned with
  | some flaw => throw flaw
  | none => pure bytes

def decodeRaw (bytes : Bytes) : Except Flaw Bytes := checked (fun _ _ => none) bytes

/-!
# Files
-/

namespace File

def hasFlag (flags : UInt8) (place : Nat) : Bool := flags.toNat.testBit place

def skip? (n : Nat) (bytes : Bytes) : Option Bytes :=
  if bytes.length < n then none else some (bytes.drop n)

/-- The bytes behind a field that starts with its length. -/
def skipField? : Bytes → Option Bytes
  | low :: high :: rest => skip? (low.toNat + 256 * high.toNat) rest
  | _ => none

/-- The bytes behind a text that ends with a zero. -/
def skipText? (bytes : Bytes) : Option Bytes :=
  match bytes.dropWhile (· ≠ 0) with
  | _ :: rest => some rest
  | [] => none

/-- The bytes behind the fields of a header, given its flags. -/
def skipFields? (flags : UInt8) (bytes : Bytes) : Option Bytes := do
  let rest ← skip? 6 bytes
  let rest ← if hasFlag flags 2 then skipField? rest else pure rest
  let rest ← if hasFlag flags 3 then skipText? rest else pure rest
  if hasFlag flags 4 then skipText? rest else pure rest

/-- The bytes behind a header with its checksum, given the bytes behind its fields. -/
def skipCheck (flags : UInt8) (bytes rest : Bytes) : Except Flaw (Option Bytes) :=
  if hasFlag flags 1 then
    match rest with
    | low :: high :: body =>
        let header := bytes.take (bytes.length - rest.length)
        if low.toNat + 256 * high.toNat = crc32 header % 0x10000 then .ok (some body)
        else .error .headerCheck
    | _ => .ok none
  else .ok (some rest)

/-- The bytes behind the header of a file, unless they end too early. -/
def body? (bytes : Bytes) : Except Flaw (Option Bytes) :=
  match bytes with
  | a :: b :: rest =>
      if a ≠ 0x1F || b ≠ 0x8B then .error .header
      else
        match rest with
        | method :: flags :: rest =>
            if method ≠ 8 then .error .method
            else if 32 ≤ flags.toNat then .error .flags
            else
              match skipFields? flags rest with
              | none => .ok none
              | some rest => skipCheck flags bytes rest
        | _ => .ok none
  | _ => .ok none

/-- The flaw in the trailer of a file, which has a checksum and the number of bytes. -/
def check (bytes : Bytes) (trailer : Bits) : Option Flaw :=
  match Reader.number 32 trailer with
  | .done sum rest =>
      if sum ≠ crc32 bytes then some .dataCheck
      else
        match Reader.number 32 rest with
        | .done size _ =>
            if size ≠ bytes.length % 0x100000000 then some .lengthCheck else none
        | _ => none
  | _ => none

def decode (bytes : Bytes) : Except Flaw Bytes := do
  match ← body? bytes with
  | none => pure []
  | some body => checked check body

end File

/-!
# Streams
-/

namespace Stream

/-- The bytes behind the header of a stream, unless they end too early. -/
def body? (bytes : Bytes) : Except Flaw (Option Bytes) :=
  match bytes with
  | method :: flags :: rest =>
      if (256 * method.toNat + flags.toNat) % 31 ≠ 0 then .error .header
      else if method.toNat % 16 ≠ 8 then .error .method
      else if 8 ≤ method.toNat / 16 then .error .window
      else if flags.toNat.testBit 5 then
        if rest.length < 4 then .ok none else .error .dictionary
      else .ok (some rest)
  | _ => .ok none

/-- The flaw in the trailer of a stream, which has a checksum from its greatest byte on. -/
def check (bytes : Bytes) (trailer : Bits) : Option Flaw :=
  match Reader.numbers 8 4 trailer with
  | .done sum _ =>
      if sum.foldl (fun n b => 256 * n + b) 0 ≠ adler32 bytes then some .dataCheck else none
  | _ => none

def decode (bytes : Bytes) : Except Flaw Bytes := do
  match ← body? bytes with
  | none => pure []
  | some body => checked check body

end Stream

end Compression
end TunnelBoard
