import TunnelBoard.Text.Utf8

/-!
# Percent escapes

A percent sign and two hexadecimal digits stand for a byte.  Escapes are read
byte by byte together with the ASCII characters around them, and each run of
such bytes is read as UTF-8; characters beyond ASCII stand for themselves and
end a run.  A percent sign without two digits is itself.
-/

namespace TunnelBoard
namespace Percent

/-- A code point that is no escape. -/
def plain (c : CodePoint) : UInt8 ⊕ CodePoint :=
  if c.isAscii then .inl (.ofNat c.val) else .inr c

/-- The bytes and the other code points of a text with percent escapes. -/
def tokens : Text → List (UInt8 ⊕ CodePoint)
  | [] => []
  | [c] => [plain c]
  | [c, d] => [plain c, plain d]
  | c :: a :: b :: rest =>
      match if c = '%' then a.hexDigit? else none, b.hexDigit? with
      | some high, some low => .inl (.ofNat (high * 16 + low)) :: tokens rest
      | _, _ => plain c :: tokens (a :: b :: rest)

/--
Reads the runs of bytes, the first of which goes on from bytes already seen,
given the text of a run.
-/
def assemble (read : Bytes → Text) (seen : Bytes) : List (UInt8 ⊕ CodePoint) → Text
  | [] => read seen.reverse
  | .inl b :: rest => assemble read (b :: seen) rest
  | .inr c :: rest => read seen.reverse ++ c :: assemble read [] rest

def escapeByte (b : UInt8) : Text :=
  ('%' : CodePoint) :: (Text.ofHex 2 b.toNat).map fun c =>
    if 0x61 ≤ c.val then c - 0x20 else c

/-- The text without its escapes; what is no UTF-8 becomes replacement characters. -/
def decode (t : Text) : Text := assemble Utf8.decodeLossy [] (tokens t)

/-- The text without its escapes; what is no UTF-8 stays escaped. -/
def decodeReadable (t : Text) : Text :=
  assemble (Utf8.decodeWith fun bytes => bytes.flatMap escapeByte) [] (tokens t)

/-- Escapes the bytes of every code point that is not kept. -/
def encode (keep : CodePoint → Bool) (t : Text) : Text :=
  t.flatMap fun c => if keep c then [c] else c.utf8.flatMap escapeByte

end Percent
end TunnelBoard
