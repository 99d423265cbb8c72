/-!
# Text

A text is a list of code points.  A code point may be a surrogate that stands
alone, because such code points reach the program through JSON escapes; this is
why texts are not core strings.

The module holds the conversions from core strings and numbers and the list
operations the rest of the library uses: joining, cutting at a separator,
testing and dropping ends.
-/

namespace TunnelBoard

/-- A Unicode code point, surrogates included. -/
abbrev CodePoint := Fin 0x110000

/-- A sequence of code points. -/
abbrev Text := List CodePoint

namespace CodePoint

/-- There are code points, so a numeral denotes one. -/
instance : @NeZero Nat Zero.ofOfNat0 0x110000 := Nat.instNeZeroSucc

def ofChar (c : Char) : CodePoint :=
  ⟨c.toNat, by
    show c.val.toNat < 0x110000
    rcases c.valid with h | ⟨_, h⟩
    · have : c.val.toNat < 0xD800 := h
      omega
    · exact h⟩

instance : Coe Char CodePoint := ⟨ofChar⟩

/-- The code point with number `n`, if there is one. -/
def ofNat? (n : Nat) : Option CodePoint :=
  if h : n < 0x110000 then some ⟨n, h⟩ else none

/-- The code point that stands for bytes no character could be read from. -/
def replacement : CodePoint := 0xFFFD

def isAscii (c : CodePoint) : Bool := c.val < 0x80

/-- The code points 0xD800 to 0xDFFF, halves of pairs in sixteen-bit encodings. -/
def isSurrogate (c : CodePoint) : Bool := 0xD800 ≤ c.val && c.val ≤ 0xDFFF

/-- First halves of surrogate pairs. -/
def isHighSurrogate (c : CodePoint) : Bool := 0xD800 ≤ c.val && c.val ≤ 0xDBFF

/-- Second halves of surrogate pairs. -/
def isLowSurrogate (c : CodePoint) : Bool := 0xDC00 ≤ c.val && c.val ≤ 0xDFFF

def isAsciiDigit (c : CodePoint) : Bool := 0x30 ≤ c.val && c.val ≤ 0x39

def isAsciiLetter (c : CodePoint) : Bool :=
  (0x41 ≤ c.val && c.val ≤ 0x5A) || (0x61 ≤ c.val && c.val ≤ 0x7A)

def asciiDigit? (c : CodePoint) : Option Nat :=
  if c.isAsciiDigit then some (c.val - 0x30) else none

/-- The value of a hexadecimal digit of either case. -/
def hexDigit? (c : CodePoint) : Option Nat :=
  if c.isAsciiDigit then some (c.val - 0x30)
  else if 0x61 ≤ c.val && c.val ≤ 0x66 then some (c.val - 0x57)
  else if 0x41 ≤ c.val && c.val ≤ 0x46 then some (c.val - 0x37)
  else none

end CodePoint

namespace Text

/-!
# Literals and numbers
-/

def ofString (s : String) : Text := s.toList.map CodePoint.ofChar

instance : Coe String Text := ⟨ofString⟩

/-- The text as a string; a lone surrogate becomes the replacement character. -/
def toString (t : Text) : String :=
  String.ofList (t.map fun c => if c.isSurrogate then Char.ofNat 0xFFFD else Char.ofNat c.val)

def ofNat (n : Nat) : Text := (Nat.toDigits 10 n).map CodePoint.ofChar

/-- The decimal digits of an integer, after a minus sign when it is negative. -/
def ofInt (n : Int) : Text :=
  if n < 0 then ('-' : CodePoint) :: ofNat n.natAbs else ofNat n.natAbs

/-- The hexadecimal digits of `n` with small letters, padded with zeros to a width. -/
def ofHex (width n : Nat) : Text :=
  let digits := (Nat.toDigits 16 n).map CodePoint.ofChar
  List.replicate (width - digits.length) ('0' : CodePoint) ++ digits

/-- The value of a run of decimal digit values, most significant first. -/
def digitsValue (digits : List Nat) : Nat :=
  digits.foldl (fun n d => 10 * n + d) 0

/-!
# Cutting and joining
-/

/-- The parts between the occurrences of a separator; there is always at least one. -/
def splitOn (separator : CodePoint) : Text → List Text
  | [] => [[]]
  | c :: rest =>
      if c = separator then [] :: splitOn separator rest
      else
        match splitOn separator rest with
        | [] => [[c]]
        | part :: parts => (c :: part) :: parts

/-- The parts before and after the first occurrence of a separator. -/
def cut? (separator : CodePoint) : Text → Option (Text × Text)
  | [] => none
  | c :: rest =>
      if c = separator then some ([], rest)
      else (cut? separator rest).map fun (before, after) => (c :: before, after)

/-- The parts before and after the last occurrence of a separator. -/
def cutLast? (separator : CodePoint) (t : Text) : Option (Text × Text) :=
  (cut? separator t.reverse).map fun (after, before) => (before.reverse, after.reverse)

/-- The parts in order, with a separator between neighbours. -/
def join (separator : Text) (parts : List Text) : Text :=
  separator.intercalate parts

/-- Drops code points from the end as long as they satisfy `p`. -/
def dropWhileEnd (p : CodePoint → Bool) (t : Text) : Text :=
  (t.reverse.dropWhile p).reverse

/-- The rest of the text after a given beginning. -/
def dropStart? : Text → Text → Option Text
  | [], t => some t
  | _ :: _, [] => none
  | s :: start, c :: rest => if s = c then dropStart? start rest else none

def endsWith (t ending : Text) : Bool := ending.isSuffixOf t

/-- Maps the ASCII capitals to small letters and keeps everything else. -/
def asciiLower (t : Text) : Text :=
  t.map fun c => if 0x41 ≤ c.val && c.val ≤ 0x5A then c + 0x20 else c

/-- Every code point is below 128. -/
def isAscii (t : Text) : Bool := t.all CodePoint.isAscii

/-- Whether one text comes before another in the order of their code points. -/
def precedes : Text → Text → Bool
  | [], [] => false
  | [], _ :: _ => true
  | _ :: _, [] => false
  | a :: s, b :: t => a < b || (a = b && precedes s t)

end Text

namespace CodePoint

/-- The numeric escape of a code point, in the shortest of three lengths. -/
def numericEscape (c : CodePoint) : Text :=
  if c.val < 0x100 then "\\x" ++ Text.ofHex 2 c.val
  else if c.val < 0x10000 then "\\u" ++ Text.ofHex 4 c.val
  else "\\U" ++ Text.ofHex 8 c.val

end CodePoint

end TunnelBoard
