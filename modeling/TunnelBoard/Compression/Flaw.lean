import TunnelBoard.Text.Basic

/-!
# Flaws of compressed data

What makes bytes useless as compressed data, and the wording of each flaw.  Data
that ends too early is no flaw: what was read of it counts.
-/

namespace TunnelBoard
namespace Compression

/-- Why bytes are no compressed data. -/
inductive Flaw where
  /-- The data starts with something else than a header. -/
  | header
  | method
  | flags
  | window
  /-- The data depends on a dictionary. -/
  | dictionary
  | headerCheck
  | blockKind
  /-- The two copies of the length of a stored block disagree. -/
  | storedLengths
  | symbolCount
  /-- The code for the lengths of codes has too many or too few codes. -/
  | codeLengths
  /-- A length is repeated although there is none, or too often. -/
  | lengthRepeat
  /-- There is no code for the end of a block. -/
  | missingEnd
  | literalLengths
  | distanceLengths
  | literal
  | distance
  /-- A distance reaches back to before the start of the data. -/
  | distanceTooFar
  | dataCheck
  | lengthCheck
deriving DecidableEq, Repr

def Flaw.detail : Flaw → Text
  | .header => "incorrect header check"
  | .method => "unknown compression method"
  | .flags => "unknown header flags set"
  | .window => "invalid window size"
  | .dictionary => "need dictionary"
  | .headerCheck => "header crc mismatch"
  | .blockKind => "invalid block type"
  | .storedLengths => "invalid stored block lengths"
  | .symbolCount => "too many length or distance symbols"
  | .codeLengths => "invalid code lengths set"
  | .lengthRepeat => "invalid bit length repeat"
  | .missingEnd => "invalid code -- missing end-of-block"
  | .literalLengths => "invalid literal/lengths set"
  | .distanceLengths => "invalid distances set"
  | .literal => "invalid literal/length code"
  | .distance => "invalid distance code"
  | .distanceTooFar => "invalid distance too far back"
  | .dataCheck => "incorrect data check"
  | .lengthCheck => "incorrect length check"

def Flaw.message (flaw : Flaw) : Text := "Error -3 while decompressing data: " ++ flaw.detail

end Compression
end TunnelBoard
