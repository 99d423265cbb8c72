import TunnelBoard.Text.Basic

/-!
# UTF-8

Writing a code point takes one to four bytes.  A reader sees the bytes one by
one: between code points it waits for a leading byte, and after a leading byte
it waits for a fixed number of continuation bytes, the first of which has a
smaller range after some leading bytes.  A byte that does not fit ends the
code point that was being read, which is then bad, and is looked at again as a
leading byte.

Surrogates are written as three bytes like their neighbours; whether a reader
accepts them is up to its caller.
-/

namespace TunnelBoard

abbrev Bytes := List UInt8

namespace CodePoint

def utf8 (c : CodePoint) : Bytes :=
  let n := c.val
  if n < 0x80 then [.ofNat n]
  else if n < 0x800 then [.ofNat (0xC0 + n / 64), .ofNat (0x80 + n % 64)]
  else if n < 0x10000 then
    [.ofNat (0xE0 + n / 4096), .ofNat (0x80 + n / 64 % 64), .ofNat (0x80 + n % 64)]
  else
    [.ofNat (0xF0 + n / 262144), .ofNat (0x80 + n / 4096 % 64), .ofNat (0x80 + n / 64 % 64),
      .ofNat (0x80 + n % 64)]

end CodePoint

namespace Text

def utf8 (t : Text) : Bytes := t.flatMap CodePoint.utf8

/-- The text whose code points are some bytes. -/
def ofBytes (bytes : Bytes) : Text := bytes.map fun b => Fin.ofNat _ b.toNat

end Text

namespace Utf8

/-!
# Reading
-/

/-- A code point whose leading byte has been read. -/
structure Pending where
  /-- The number of continuation bytes after the next one. -/
  more : Nat
  least : Nat
  greatest : Nat
  bits : Nat
  /-- The bytes read so far, the last one first. -/
  seen : Bytes

/-- A part of what was read. -/
inductive Chunk where
  | point (c : CodePoint)
  /-- Bytes that no code point starts with. -/
  | broken (bytes : Bytes)

/-- What a leading byte announces. -/
inductive Lead where
  | whole (c : CodePoint)
  | pending (p : Pending)
  | bad

/-- Reads a leading byte. -/
def lead (surrogates : Bool) (byte : UInt8) : Lead :=
  let b := byte.toNat
  if b < 0x80 then .whole (Fin.ofNat _ b)
  else if b < 0xC2 then .bad
  else if b < 0xE0 then .pending ⟨0, 0x80, 0xBF, b - 0xC0, [byte]⟩
  else if b = 0xE0 then .pending ⟨1, 0xA0, 0xBF, 0, [byte]⟩
  else if b = 0xED then .pending ⟨1, 0x80, if surrogates then 0xBF else 0x9F, 0xD, [byte]⟩
  else if b < 0xF0 then .pending ⟨1, 0x80, 0xBF, b - 0xE0, [byte]⟩
  else if b = 0xF0 then .pending ⟨2, 0x90, 0xBF, 0, [byte]⟩
  else if b < 0xF4 then .pending ⟨2, 0x80, 0xBF, b - 0xF0, [byte]⟩
  else if b = 0xF4 then .pending ⟨2, 0x80, 0x8F, 4, [byte]⟩
  else .bad

/-- A code point that has been read as a whole. -/
def Chunk.ofBits (bits : Nat) (seen : Bytes) : Chunk :=
  match CodePoint.ofNat? bits with
  | some c => .point c
  | none => .broken seen.reverse

/-- What a byte in place of a leading byte adds to the result, and the state behind it. -/
def start (surrogates : Bool) (b : UInt8) : List Chunk × Option Pending :=
  match lead surrogates b with
  | .whole c => ([.point c], none)
  | .pending p => ([], some p)
  | .bad => ([.broken [b]], none)

/-- What a byte adds to the result, and the state behind it. -/
def step (surrogates : Bool) (state : Option Pending) (b : UInt8) : List Chunk × Option Pending :=
  match state with
  | none => start surrogates b
  | some p =>
      if p.least ≤ b.toNat && b.toNat ≤ p.greatest then
        let bits := p.bits * 64 + b.toNat % 64
        let seen := b :: p.seen
        match p.more with
        | 0 => ([Chunk.ofBits bits seen], none)
        | more + 1 => ([], some ⟨more, 0x80, 0xBF, bits, seen⟩)
      else
        let (chunks, next) := start surrogates b
        (.broken p.seen.reverse :: chunks, next)

/--
Reads the rest of the bytes.  The result has a part for each code point, and one
for each maximal beginning of a code point that was broken off.
-/
def read (surrogates : Bool) : Option Pending → Bytes → List Chunk
  | none, [] => []
  | some p, [] => [.broken p.seen.reverse]
  | state, b :: rest =>
      let (chunks, next) := step surrogates state b
      chunks ++ read surrogates next rest

/-- The code point of a part. -/
def Chunk.point? : Chunk → Option CodePoint
  | .point c => some c
  | .broken _ => none

/-- The text of well-formed bytes, in which surrogates may stand alone. -/
def decode? (bytes : Bytes) : Option Text := (read true none bytes).mapM Chunk.point?

/-- Whether bytes are the bytes of a text without surrogates. -/
def isWellFormed (bytes : Bytes) : Bool :=
  (read false none bytes).all fun chunk => chunk.point?.isSome

/-- The text of any bytes, given the text for each broken part. -/
def decodeWith (mend : Bytes → Text) (bytes : Bytes) : Text :=
  (read false none bytes).flatMap fun
    | .point c => [c]
    | .broken bytes => mend bytes

/-- The text of any bytes, with a replacement character for each broken part. -/
def decodeLossy (bytes : Bytes) : Text := decodeWith (fun _ => [.replacement]) bytes

end Utf8

end TunnelBoard
