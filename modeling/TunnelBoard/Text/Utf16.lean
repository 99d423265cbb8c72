import TunnelBoard.Text.Utf8

/-!
# UTF-16 and UTF-32

Both encodings exist in two byte orders.  Surrogates that do not form a pair
are read as code points of their own.
-/

namespace TunnelBoard

inductive ByteOrder where
  | big
  | little
deriving DecidableEq, Repr

namespace Text

def ofPair (high low : CodePoint) : CodePoint :=
  Fin.ofNat _ (0x10000 + (high.val - 0xD800) * 0x400 + (low.val - 0xDC00))

/-- Puts the surrogates that form pairs together. -/
def joinPairs : Text → Text
  | high :: low :: rest =>
      if high.isHighSurrogate && low.isLowSurrogate then ofPair high low :: joinPairs rest
      else high :: joinPairs (low :: rest)
  | t => t

end Text

namespace Utf16

/-- The units of bytes that come in pairs. -/
def units? (order : ByteOrder) : Bytes → Option Text
  | [] => some []
  | [_] => none
  | a :: b :: rest =>
      let unit :=
        match order with
        | .big => a.toNat * 256 + b.toNat
        | .little => b.toNat * 256 + a.toNat
      (units? order rest).map (Fin.ofNat _ unit :: ·)

def decode? (order : ByteOrder) (bytes : Bytes) : Option Text :=
  (units? order bytes).map Text.joinPairs

end Utf16

namespace Utf32

def decode? (order : ByteOrder) : Bytes → Option Text
  | [] => some []
  | a :: b :: c :: d :: rest =>
      let number :=
        match order with
        | .big => ((a.toNat * 256 + b.toNat) * 256 + c.toNat) * 256 + d.toNat
        | .little => ((d.toNat * 256 + c.toNat) * 256 + b.toNat) * 256 + a.toNat
      match CodePoint.ofNat? number with
      | some point => (decode? order rest).map (point :: ·)
      | none => none
  | _ => none

end Utf32

end TunnelBoard
