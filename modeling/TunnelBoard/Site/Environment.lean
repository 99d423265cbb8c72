import TunnelBoard.Fault
import TunnelBoard.Number.Binary64Text
import TunnelBoard.Text.Blank
import TunnelBoard.Text.Lower
import TunnelBoard.Text.Quoted

/-!
# Reading the environment

A variable of the environment is a text or is not set.  It is read as a truth
value, a number, a text or a list of texts; each reading has a default for
variables that are not set.
-/

namespace TunnelBoard

abbrev Environment := List (Text × Text)

namespace Environment

def get? (environment : Environment) (name : Text) : Option Text := environment.lookup name

/-- The texts that stand for true. -/
def affirmations : List Text := ["1", "true", "t", "yes", "y", "on"]

/-- Whether a text stands for true, with blanks around it and in any case. -/
def affirms (t : Text) : Bool := affirmations.contains t.trim.lower

def flag (default : Bool) (raw : Option Text) : Bool := raw.elim default affirms

def number (default : Binary64) (raw : Option Text) : Except Fault Binary64 :=
  match raw with
  | none => .ok default
  | some t =>
      match Binary64.ofText? t.trim with
      | some x => .ok x
      | none => .error (.notNumeral t.trim.quoted)

/-- A variable as a text without blanks around it; a blank text counts as not set. -/
def text (default : Text) (raw : Option Text) : Text :=
  match raw with
  | none => default
  | some t => if t.trim.isEmpty then default else t.trim

/-- The parts of a text between commas, without blanks around them and without empty ones. -/
def parts (t : Text) : List Text := ((t.splitOn ',').map Text.trim).filter fun part => !part.isEmpty

def list (default : List Text) (raw : Option Text) : List Text := raw.elim default parts

end Environment
end TunnelBoard
