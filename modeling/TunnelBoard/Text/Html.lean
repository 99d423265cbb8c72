import TunnelBoard.Text.Basic

/-!
# Text in a page

Five characters are written as references wherever a text is put into a page,
so a text can never open or close a tag, an attribute or a reference.  JSON in
a script element escapes three of them in its own way.
-/

namespace TunnelBoard
namespace Html

def escapePoint (c : CodePoint) : Text :=
  if c = '&' then "&amp;"
  else if c = '<' then "&lt;"
  else if c = '>' then "&gt;"
  else if c = '"' then "&quot;"
  else if c = '\'' then "&#x27;"
  else [c]

def escape (t : Text) : Text := t.flatMap escapePoint

@[simp]
theorem escape_nil : escape [] = [] := rfl

@[simp]
theorem escape_append (s t : Text) : escape (s ++ t) = escape s ++ escape t := List.flatMap_append

def escapeScriptPoint (c : CodePoint) : Text :=
  if c = '&' then "\\u0026"
  else if c = '<' then "\\u003C"
  else if c = '>' then "\\u003E"
  else [c]

def escapeScript (t : Text) : Text := t.flatMap escapeScriptPoint

end Html
end TunnelBoard
