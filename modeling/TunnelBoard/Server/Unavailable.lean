import TunnelBoard.Text.Basic

/-!
# Servers that do not answer

There are three ways not to get a snapshot from a server that was asked at some
address: no answer, or one that is not a success; an answer that is not JSON;
and JSON that is not an object.
-/

namespace TunnelBoard
namespace Server

/-- Why there is no snapshot of a server. -/
inductive Unavailable where
  | unreachable (address detail : Text)
  | notJson (address : Text)
  | notObject (address kind : Text)
deriving DecidableEq, Repr

/-- The wording that is shown to a reader of the dashboard. -/
def Unavailable.message : Unavailable → Text
  | .unreachable address detail =>
      "Could not reach frps dashboard at " ++ address ++ ": " ++ detail
  | .notJson address => "frps dashboard at " ++ address ++ " returned invalid JSON."
  | .notObject address kind =>
      "frps dashboard at " ++ address ++ " returned " ++ kind ++ ", expected an object."

end Server
end TunnelBoard
