/-
  TimedTrials/Endpoint/Reach.lean
  ===============================
  **Why nothing arrives at an address that cannot be reached.**

  Requests are sent to addresses of the web. User and password are sent apart from the address,
  as far as they can be read. What is asked for has to fit into the first line of a request, and
  its host must not have characters that cannot stand there.
-/
import TimedTrials.Endpoint.Reader

namespace TimedTrials

/-- Whether user and password are sent apart from the address: when the user can be read, and
    there is a user or a password that can be read. -/
def Authority.isIntroduced (a : Authority) : Bool :=
  let readable (s : String) := (Text.percentText? s.toList).isSome
  readable a.user && (!a.user.isEmpty || (a.password.map readable).getD false)

namespace Endpoint

def asked (e : Endpoint) : Endpoint :=
  { e with authority := e.authority.map fun a => if a.isIntroduced then a.anonymous else a }

def webSchemes : List String := ["http", "https"]

/-- The greatest length of an address in a request, in bytes. -/
def maxRequestBytes : Nat := 65534

/-- Characters of a host that cannot stand in a request. -/
def deniedInRequest : List Char := ['"', Char.ofNat 0x60, '\x7b', '\x7d']

/-- Whether a request can be sent to an address. -/
def canBeAsked (e : Endpoint) : Bool :=
  webSchemes.contains e.scheme && decide (e.text.utf8ByteSize ≤ maxRequestBytes)
    && !((e.authority.map (·.host)).getD "").toList.any deniedInRequest.contains

/-- Why nothing arrives at an address: it is none, no request can be sent to it, or sending
    fails. -/
def failure (s : String) : String :=
  match read? s with
  | none => "builder error"
  | some e =>
    (if e.asked.canBeAsked then "error sending request" else "builder error")
      ++ " for url (" ++ e.asked.text ++ ")"

end Endpoint

end TimedTrials
