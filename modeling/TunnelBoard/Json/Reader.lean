import TunnelBoard.Value.Basic
import TunnelBoard.Number.Binary64Text
import TunnelBoard.Text.Utf16

/-!
# Reading JSON

A reader takes one JSON value from a text and is refused in two ways: the text
is not JSON, or it nests arrays and objects deeper than a given limit.  Beside
standard JSON it takes `NaN`, `Infinity` and `-Infinity`.  Integers have at most
4300 digits; a number with a point or an exponent is a floating point number.

Bytes are read in the encoding their first bytes show: a byte order mark, or the
places of the zero bytes among the first four.
-/

namespace TunnelBoard
namespace Json

/-- Why nothing was read. -/
inductive ReadError where
  | malformed
  | tooDeep
deriving DecidableEq, Repr

def isSpace (c : CodePoint) : Bool := c = ' ' || c = '\t' || c = '\n' || c = '\r'

def skipSpace (t : Text) : Text := t.dropWhile isSpace

/-!
# Texts
-/

/-- A part of a text: a code point as such, or a sixteen bit unit of an escape. -/
inductive Piece where
  | plain (c : CodePoint)
  | unit (c : CodePoint)

/-- The code points of pieces; two units that form a surrogate pair are one. -/
def joinPieces : List Piece → Text
  | .unit high :: .unit low :: rest =>
      if high.isHighSurrogate && low.isLowSurrogate then
        Text.ofPair high low :: joinPieces rest
      else high :: joinPieces (.unit low :: rest)
  | .unit c :: rest => c :: joinPieces rest
  | .plain c :: rest => c :: joinPieces rest
  | [] => []

/-- The code point behind a backslash. -/
def shortEscape? (c : CodePoint) : Option CodePoint :=
  if c = '"' || c = '\\' || c = '/' then some c
  else if c = 'b' then some 0x08
  else if c = 'f' then some 0x0C
  else if c = 'n' then some 0x0A
  else if c = 'r' then some 0x0D
  else if c = 't' then some 0x09
  else none

/-- The unit of four hexadecimal digits. -/
def unit? (a b c d : CodePoint) : Option CodePoint := do
  let a ← a.hexDigit?
  let b ← b.hexDigit?
  let c ← c.hexDigit?
  let d ← d.hexDigit?
  pure (Fin.ofNat _ (((a * 16 + b) * 16 + c) * 16 + d))

/-- The pieces up to the closing quote, and the rest of the text. -/
def pieces? : Text → Option (List Piece × Text)
  | [] => none
  | [c] => if c = '"' then some ([], []) else none
  | c :: e :: rest =>
      if c = '"' then some ([], e :: rest)
      else if c = '\\' then
        if e = 'u' then
          match rest with
          | x :: y :: z :: w :: rest =>
              (unit? x y z w).bind fun u =>
                (pieces? rest).map fun (ps, rest) => (.unit u :: ps, rest)
          | _ => none
        else
          (shortEscape? e).bind fun p =>
            (pieces? rest).map fun (ps, rest) => (.plain p :: ps, rest)
      else if c.val < 0x20 then none
      else (pieces? (e :: rest)).map fun (ps, rest) => (.plain c :: ps, rest)

/-- A text behind its opening quote, and the rest. -/
def readText? (t : Text) : Option (Text × Text) :=
  (pieces? t).map fun (ps, rest) => (joinPieces ps, rest)

/-!
# Numbers
-/

/-- The fraction a text starts with: a point and at least one digit. -/
def fraction? : Text → Option (List Nat × Text)
  | c :: rest =>
      if c = '.' then
        match Decimal.takeDigits rest with
        | ([], _) => none
        | (digits, rest) => some (digits, rest)
      else none
  | [] => none

/-- The exponent a text starts with: an `e`, a sign or none, and at least one digit. -/
def exponent? : Text → Option (Int × Text)
  | c :: rest =>
      if c = 'e' || c = 'E' then
        let (negative, rest) := Decimal.takeSign rest
        match Decimal.takeDigits rest with
        | ([], _) => none
        | (digits, rest) =>
            let n : Int := Text.digitsValue digits
            some (if negative then -n else n, rest)
      else none
  | [] => none

/-- The digits before the point: a single zero, or digits that do not start with one. -/
def wholeDigits? (t : Text) : Option (List Nat × Text) :=
  match Decimal.takeDigits t with
  | ([], _) => none
  | (0 :: _, _) => some ([0], t.drop 1)
  | (digits, rest) => some (digits, rest)

/-- A number without a sign, and the rest. -/
def readUnsigned? (negative : Bool) (t : Text) : Option (Value × Text) := do
  let (whole, rest) ← wholeDigits? t
  let (fraction, afterFraction) := (fraction? rest).getD ([], rest)
  let (power, afterPower) := (exponent? afterFraction).getD (0, afterFraction)
  if fraction.isEmpty && (exponent? afterFraction).isNone then
    if Text.digitLimit < whole.length then none
    else
      let n : Int := Text.digitsValue whole
      some (.int (if negative then -n else n), rest)
  else
    let x :=
      Binary64.ofDecimal negative (Text.digitsValue (whole ++ fraction))
        (power - fraction.length)
    some (.float x, afterPower)

/-- A value that is no text, array or object, and the rest. -/
def readAtom? (t : Text) : Option (Value × Text) :=
  let word := fun (w : Text) (v : Value) => (Text.dropStart? w t).map fun rest => (v, rest)
  word "null" .null
    <|> word "true" (.bool true)
    <|> word "false" (.bool false)
    <|> word "NaN" (.float .nan)
    <|> word "Infinity" (.float (.infinite false))
    <|> word "-Infinity" (.float (.infinite true))
    <|> match Text.dropStart? "-" t with
        | some rest => readUnsigned? true rest
        | none => readUnsigned? false t

/-!
# Values
-/

/-- Turns nothing into the refusal of a text that is not JSON. -/
def orMalformed {α : Type} (r : Option α) : Except ReadError α :=
  match r with
  | some x => .ok x
  | none => .error .malformed

mutual

/--
A value at the start of a text.  The first number bounds the calls, of which
there are at most two for each code point, and the second one the nesting.
-/
def readValue : Nat → Nat → Text → Except ReadError (Value × Text)
  | 0, _, _ => .error .malformed
  | _ + 1, _, [] => .error .malformed
  | fuel + 1, depth, c :: rest =>
      if c = '"' then (orMalformed (readText? rest)).map fun (t, rest) => (.text t, rest)
      else if c = '[' then
        match depth with
        | 0 => .error .tooDeep
        | depth + 1 =>
            match skipSpace rest with
            | [] => .error .malformed
            | d :: after =>
                if d = ']' then .ok (.list [], after)
                else
                  (readItems fuel depth (d :: after)).map fun (items, rest) =>
                    (.list items, rest)
      else if c = '\x7b' then
        match depth with
        | 0 => .error .tooDeep
        | depth + 1 =>
            match skipSpace rest with
            | [] => .error .malformed
            | d :: after =>
                if d = '\x7d' then .ok (.map [], after)
                else
                  (readFields fuel depth (d :: after)).map fun (entries, rest) =>
                    (Value.ofEntries entries, rest)
      else orMalformed (readAtom? (c :: rest))

/-- The items of an array that is not empty, up to its closing bracket. -/
def readItems : Nat → Nat → Text → Except ReadError (List Value × Text)
  | 0, _, _ => .error .malformed
  | fuel + 1, depth, t => do
      let (v, rest) ← readValue fuel depth t
      match skipSpace rest with
      | [] => .error .malformed
      | c :: rest =>
          if c = ']' then .ok ([v], rest)
          else if c = ',' then
            let (vs, rest) ← readItems fuel depth (skipSpace rest)
            .ok (v :: vs, rest)
          else .error .malformed

/-- The fields of an object that is not empty, up to its closing brace. -/
def readFields : Nat → Nat → Text → Except ReadError (List (Value × Value) × Text)
  | 0, _, _ => .error .malformed
  | _ + 1, _, [] => .error .malformed
  | fuel + 1, depth, quote :: t =>
      if quote = '"' then do
        let (name, rest) ← orMalformed (readText? t)
        match skipSpace rest with
        | [] => .error .malformed
        | colon :: rest =>
            if colon = ':' then
              let (v, rest) ← readValue fuel depth (skipSpace rest)
              match skipSpace rest with
              | [] => .error .malformed
              | c :: rest =>
                  if c = '\x7d' then .ok ([(.text name, v)], rest)
                  else if c = ',' then
                    let (fields, rest) ← readFields fuel depth (skipSpace rest)
                    .ok ((.text name, v) :: fields, rest)
                  else .error .malformed
            else .error .malformed
      else .error .malformed

end

/-- The value a text consists of, with white space around it. -/
def read (depth : Nat) (t : Text) : Except ReadError Value := do
  let (v, rest) ← readValue (2 * t.length + 1) depth (skipSpace t)
  match skipSpace rest with
  | [] => .ok v
  | _ :: _ => .error .malformed

/-!
# Bytes
-/

inductive Encoding where
  | utf8
  | utf16 (order : ByteOrder)
  | utf32 (order : ByteOrder)
deriving DecidableEq, Repr

/-- The encoding of bytes, and the bytes behind a byte order mark. -/
def Encoding.detect : Bytes → Encoding × Bytes
  | 0x00 :: 0x00 :: 0xFE :: 0xFF :: rest => (.utf32 .big, rest)
  | 0xFF :: 0xFE :: 0x00 :: 0x00 :: rest => (.utf32 .little, rest)
  | 0xFE :: 0xFF :: rest => (.utf16 .big, rest)
  | 0xFF :: 0xFE :: rest => (.utf16 .little, rest)
  | 0xEF :: 0xBB :: 0xBF :: rest => (.utf8, rest)
  | a :: b :: c :: d :: rest =>
      let bytes := a :: b :: c :: d :: rest
      if a = 0 then (if b = 0 then .utf32 .big else .utf16 .big, bytes)
      else if b = 0 then
        (if c = 0 && d = 0 then .utf32 .little else .utf16 .little, bytes)
      else (.utf8, bytes)
  | [a, b] =>
      if a = 0 then (.utf16 .big, [a, b])
      else if b = 0 then (.utf16 .little, [a, b])
      else (.utf8, [a, b])
  | bytes => (.utf8, bytes)

def Encoding.decode? : Encoding → Bytes → Option Text
  | .utf8, bytes => Utf8.decode? bytes
  | .utf16 order, bytes => Utf16.decode? order bytes
  | .utf32 order, bytes => Utf32.decode? order bytes

def readBytes (depth : Nat) (bytes : Bytes) : Except ReadError Value :=
  let (encoding, bytes) := Encoding.detect bytes
  match encoding.decode? bytes with
  | some t => read depth t
  | none => .error .malformed

end Json
end TunnelBoard
