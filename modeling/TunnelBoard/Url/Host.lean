import TunnelBoard.Text.Lower
import TunnelBoard.Text.Percent
import TunnelBoard.Url.Flaw
import TunnelBoard.Url.Label.Basic
import TunnelBoard.Url.Punycode

/-!
# Hosts

A host is four numbers with separators, an address of the newer kind between
brackets, or a name.  Addresses are checked and kept; names are lower-cased, and
names that are not ASCII are written in Punycode label by label.
-/

namespace TunnelBoard
namespace Url

/-!
# Four numbers
-/

/-- Whether a text is four numbers of any size with dots between them. -/
def isDotted (t : Text) : Bool :=
  let parts := t.splitOn '.'
  parts.length = 4 && parts.all fun part => !part.isEmpty && part.all CodePoint.isAsciiDigit

/-- Whether a text is a number below 256 without needless zeros. -/
def isOctet (t : Text) : Bool :=
  !t.isEmpty && t.length ≤ 3 && t.all CodePoint.isAsciiDigit
    && (t.length = 1 || t.head? ≠ some ('0' : CodePoint))
    && Text.digitsValue (t.filterMap CodePoint.asciiDigit?) ≤ 255

/-- Whether a text is four numbers with dots between them. -/
def isIpv4 (t : Text) : Bool :=
  let parts := t.splitOn '.'
  parts.length = 4 && parts.all isOctet

/-!
# Addresses between brackets
-/

/-- Whether a text is at most four hexadecimal digits. -/
def isHextet (t : Text) : Bool :=
  !t.isEmpty && t.length ≤ 4 && t.all fun c => c.hexDigit?.isSome

/-- The parts of an address, with two parts in place of four numbers at its end. -/
def hextets? (t : Text) : Option (List Text) :=
  let parts := t.splitOn ':'
  match parts.getLast? with
  | none => none
  | some last =>
      if parts.length < 3 then none
      else if last.contains '.' then
        if isIpv4 last then some (parts.dropLast ++ [("0" : Text), ("0" : Text)]) else none
      else some parts

/-- The places of the empty parts between the first and the last part. -/
def gaps (parts : List Text) : List Nat :=
  (parts.zipIdx.filter fun (part, i) => part.isEmpty && 0 < i && i + 1 < parts.length).map (·.2)

/-- Whether parts are an address: eight numbers, or fewer with one gap. -/
def areHextets (parts : List Text) : Bool :=
  match gaps parts with
  | [] => parts.length = 8 && parts.all isHextet
  | [i] =>
      let before := parts.take i
      let after := parts.drop (i + 1)
      let before := if before = [[]] then [] else before
      let after := if after = [[]] then [] else after
      parts.length ≤ 9 && before.length + after.length < 8 && before.all isHextet
        && after.all isHextet
  | _ => false

/-- Whether a text is an address, with or without a zone behind a percent sign. -/
def isIpv6 (t : Text) : Bool :=
  let (address, zoneFits) :=
    match t.cut? '%' with
    | none => (t, true)
    | some (address, zone) => (address, !zone.isEmpty && !zone.contains '%')
  zoneFits && !t.contains '/'
    && match hextets? address with
       | some parts => areHextets parts
       | none => false

/-!
# Names
-/

/-- The code points that separate the labels of a name. -/
def isLabelSeparator (c : CodePoint) : Bool :=
  c = '.' || c = 0x3002 || c = 0xFF0E || c = 0xFF61

/-- The greatest number of code points of the ASCII form of a label. -/
def labelLimit : Nat := 63

/-- The greatest number of code points of the ASCII form of a name without a dot at its end. -/
def nameLimit : Nat := 253

/--
The label beyond ASCII that a code in small letters stands for, if the code is
the one that the label has.
-/
def decodedLabel? (code : Text) : Option Text :=
  (Punycode.decode? code).filter fun t => !t.isAscii && isLabel t && Punycode.encode t = code

/-- The label that an ASCII label stands for. -/
def readLabel? (t : Text) : Option Text :=
  let t := t.asciiLower
  match Text.dropStart? "xn--" t with
  | some code => decodedLabel? code
  | none => if isLabel t then some t else none

def asciiLabel? (t : Text) : Option Text :=
  if labelLimit < t.length then none
  else if t.isAscii then (readLabel? t).map fun _ => t
  else if isLabel t then
    (some ("xn--" ++ Punycode.encode t)).filter fun ascii => ascii.length ≤ labelLimit
  else none

/-- The labels of a name, and whether there is a separator at its end. -/
def labels (t : Text) : List Text × Bool :=
  let parts := Text.splitOn '.' (t.map fun c => if isLabelSeparator c then '.' else c)
  if parts.getLast? = some [] then (parts.dropLast, true) else (parts, false)

def ofLabels (labels : List Text) (ending : Bool) : Text :=
  Text.join "." labels ++ (if ending then ("." : Text) else [])

/-- The ASCII form of a name; a separator at its end is kept. -/
def asciiName? (t : Text) : Option Text := do
  let (parts, ending) := labels t
  let parts ← parts.mapM asciiLabel?
  let name := Text.join "." parts
  if parts.isEmpty || nameLimit < name.length then none else pure (ofLabels parts ending)

/-- The name that an ASCII name stands for; a name may be as long as one with a dot at its end. -/
def readName? (t : Text) : Option Text := do
  let (parts, ending) := labels t
  if parts.isEmpty || nameLimit + 1 < t.length then none
  else
    let parts ← parts.mapM readLabel?
    pure (ofLabels parts ending)

/-!
# Hosts
-/

/-- The code points that stand for themselves everywhere. -/
def isUnreserved (c : CodePoint) : Bool :=
  c.isAsciiLetter || c.isAsciiDigit || c = '-' || c = '.' || c = '_' || c = '~'

def isOneOf (characters : Text) (c : CodePoint) : Bool := characters.contains c

/-- The code points that stand for themselves in a name. -/
def isNamePoint (c : CodePoint) : Bool :=
  isUnreserved c || isOneOf "!$&'()*+,;=\"`\x7b\x7d%|\\" c

/-- The inner part of a text between brackets. -/
def bracketed? (t : Text) : Option Text :=
  match t with
  | [] => none
  | c :: rest =>
      if c = '[' && rest.getLast? = some (']' : CodePoint) then some rest.dropLast else none

/-- The form of a host in an address, without brackets. -/
def normalHost (t : Text) : Except Flaw Text :=
  if t.isEmpty then .ok []
  else if isDotted t then
    if isIpv4 t then .ok t else .error (.ipv4Host t)
  else
    match bracketed? t with
    | some inner => if isIpv6 inner then .ok inner else .error (.ipv6Host t)
    | none =>
        if t.isAscii then .ok (Percent.encode isNamePoint t.lower)
        else
          match asciiName? t.lower with
          | some name => .ok name
          | none => .error (.hostName t)

/-- The host in normal form as it is read; names are read if their first label is in Punycode. -/
def readHost? (host : Text) : Option Text :=
  if (Text.dropStart? "xn--" host).isSome then readName? host else some host

end Url
end TunnelBoard
