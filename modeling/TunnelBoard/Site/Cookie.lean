import TunnelBoard.Text.Blank
import TunnelBoard.Text.Charset

/-!
# Cookies

The header with the cookies of a request is a sequence of parts between
semicolons.  A part is a name and a value with an equals sign between them; a
part without one is a value without a name.  A value may stand between quotes
and then has escapes: a backslash and three octal digits, or a backslash and any
character.

The header is a text of code points below 256, which are the bytes of UTF-8.
-/

namespace TunnelBoard
namespace Site

abbrev Cookies := List (Text × Text)

namespace Cookies

/-- The value of an octal digit up to a greatest one. -/
def octal? (greatest : Nat) (c : CodePoint) : Option Nat :=
  c.asciiDigit?.filter fun n => n ≤ greatest

/-- The code point of three octal digits. -/
def octalEscape? (a b c : CodePoint) : Option CodePoint := do
  let a ← octal? 3 a
  let b ← octal? 7 b
  let c ← octal? 7 c
  pure (Fin.ofNat _ ((a * 8 + b) * 8 + c))

/-- The text between the quotes without its escapes; a line break cannot be escaped. -/
def unescape : Text → Text
  | [] => []
  | [c] => [c]
  | c :: d :: rest =>
      if c = '\\' && d ≠ '\n' then
        match rest with
        | e :: f :: rest' =>
            match octalEscape? d e f with
            | some p => p :: unescape rest'
            | none => d :: unescape (e :: f :: rest')
        | rest => d :: unescape rest
      else c :: unescape (d :: rest)

def unquote (t : Text) : Text :=
  match t with
  | a :: b :: rest =>
      if a = '"' && (b :: rest).getLast? = some ('"' : CodePoint) then
        unescape (b :: rest).dropLast
      else t
  | _ => t

/-- The cookie of a part, if the part is not blank. -/
def cookie? (part : Text) : Option (Text × Text) :=
  let (name, value) := (part.cut? '=').getD ([], part)
  let name := name.trim
  let value := value.trim
  if name.isEmpty && value.isEmpty then none else some (name, unquote value)

def parse (header : Text) : Except Unencodable Cookies := do
  let bytes ← Charset.latin1.encode header
  pure (((Utf8.decodeLossy bytes).splitOn ';').filterMap cookie?)

def last? (cookies : Cookies) (name : Text) : Option Text := cookies.reverse.lookup name

end Cookies
end Site
end TunnelBoard
