import TunnelBoard.Text.Utf8

/-!
# Character sets for output

A page is written in UTF-8 and a header in Latin-1.  Neither can write every
text: UTF-8 has no bytes for surrogates and Latin-1 none for code points from
256 on.  What cannot be written is reported as the first run of such code
points, together with a few code points on either side of it.
-/

namespace TunnelBoard

namespace Text

/-- None of the code points of a text is a surrogate. -/
def IsWritable (t : Text) : Prop := ∀ c ∈ t, c.isSurrogate = false

instance (t : Text) : Decidable t.IsWritable :=
  List.decidableBAll (fun c : CodePoint => c.isSurrogate = false) t

end Text

inductive Charset where
  | utf8
  | latin1
deriving DecidableEq, Repr

/-- The first run of code points that a character set lacks. -/
structure Unencodable where
  charset : Charset
  /-- The number of code points before the run. -/
  position : Nat
  /-- The first code point of the run. -/
  first : CodePoint
  /-- The number of code points in the run. -/
  length : Nat
  /-- The run with its margins. -/
  surroundings : Text
deriving DecidableEq, Repr

/-- The greatest number of code points on either side that are reported with a run. -/
def Unencodable.margin : Nat := 5

namespace Charset

/-- The name of the set in messages. -/
def name : Charset → Text
  | .utf8 => "utf-8"
  | .latin1 => "latin-1"

def admits : Charset → CodePoint → Bool
  | .utf8, c => !c.isSurrogate
  | .latin1, c => c.val < 0x100

def bytesOf : Charset → CodePoint → Bytes
  | .utf8, c => c.utf8
  | .latin1, c => [.ofNat c.val]

/-- Writes a text, or reports the first run that cannot be written. -/
def encode (charset : Charset) (t : Text) : Except Unencodable Bytes :=
  let before := t.takeWhile charset.admits
  match t.dropWhile charset.admits with
  | [] => .ok (t.flatMap charset.bytesOf)
  | first :: rest =>
      let others := rest.takeWhile fun c => !charset.admits c
      let after := rest.dropWhile fun c => !charset.admits c
      .error
        { charset
          position := before.length
          first
          length := 1 + others.length
          surroundings :=
            before.drop (before.length - Unencodable.margin) ++ first :: others
              ++ after.take Unencodable.margin }

end Charset

namespace Unencodable

/-- Why the run cannot be written. -/
def reason (u : Unencodable) : Text :=
  match u.charset with
  | .utf8 => "surrogates not allowed"
  | .latin1 => "ordinal not in range(256)"

def message (u : Unencodable) : Text :=
  let place : Text :=
    if u.length = 1 then
      "character '" ++ u.first.numericEscape ++ "' in position " ++ Text.ofNat u.position
    else
      "characters in position " ++ Text.ofNat u.position ++ "-"
        ++ Text.ofNat (u.position + u.length - 1)
  "'" ++ u.charset.name ++ "' codec can't encode " ++ place ++ ": " ++ u.reason

end Unencodable

end TunnelBoard
