import TunnelBoard.Value.Basic

/-!
# JSON

What the dashboard sends is JSON made of booleans, integers, texts, arrays and
objects.  It is written in one line of ASCII: a comma and a space between the
parts, a colon and a space behind a name, and an escape for every code point
that is not a visible ASCII character.
-/

namespace TunnelBoard

/-- JSON that the dashboard writes. -/
inductive Json where
  | null
  | bool (b : Bool)
  | int (n : Int)
  | text (t : Text)
  | array (items : List Json)
  | object (fields : List (Text × Json))

namespace Json

/-!
# Writing
-/

/-- The escape of a sixteen bit unit. -/
def escapeUnit (n : Nat) : Text := "\\u" ++ Text.ofHex 4 n

def escapePoint (c : CodePoint) : Text :=
  if c = '"' then "\\\""
  else if c = '\\' then "\\\\"
  else if c = '\n' then "\\n"
  else if c = '\r' then "\\r"
  else if c = '\t' then "\\t"
  else if c = 0x0C then "\\f"
  else if c = 0x08 then "\\b"
  else if 0x20 ≤ c.val && c.val ≤ 0x7E then [c]
  else if c.val < 0x10000 then escapeUnit c.val
  else
    let n := c.val - 0x10000
    escapeUnit (0xD800 + n / 0x400) ++ escapeUnit (0xDC00 + n % 0x400)

/-- A text between quotes, given what stands for each of its code points. -/
def quote (escape : CodePoint → Text) (t : Text) : Text := "\"" ++ t.flatMap escape ++ "\""

def renderText (t : Text) : Text := quote escapePoint t

mutual

/-- The one-line form of JSON, given what stands for each code point of a text. -/
def renderWith (escape : CodePoint → Text) : Json → Text
  | .null => "null"
  | .bool b => if b then "true" else "false"
  | .int n => Text.ofInt n
  | .text t => quote escape t
  | .array items => "[" ++ Text.join ", " (renderItems escape items) ++ "]"
  | .object fields => "\x7b" ++ Text.join ", " (renderFields escape fields) ++ "\x7d"

def renderItems (escape : CodePoint → Text) : List Json → List Text
  | [] => []
  | j :: rest => j.renderWith escape :: renderItems escape rest

def renderFields (escape : CodePoint → Text) : List (Text × Json) → List Text
  | [] => []
  | (name, j) :: rest =>
      (quote escape name ++ ": " ++ j.renderWith escape) :: renderFields escape rest

end

def render (j : Json) : Text := j.renderWith escapePoint

/-!
# As a value
-/

mutual

def toValue : Json → Value
  | .null => .null
  | .bool b => .bool b
  | .int n => .int n
  | .text t => .text t
  | .array items => .list (itemValues items)
  | .object fields => .map (fieldValues fields)

def itemValues : List Json → List Value
  | [] => []
  | j :: rest => j.toValue :: itemValues rest

def fieldValues : List (Text × Json) → List (Value × Value)
  | [] => []
  | (name, j) :: rest => (.text name, j.toValue) :: fieldValues rest

end

end Json
end TunnelBoard
