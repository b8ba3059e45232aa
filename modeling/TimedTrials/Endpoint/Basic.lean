/-
  TimedTrials/Endpoint/Basic.lean
  ===============================
  **Addresses in their normal form.**

  An address has a scheme, and behind it perhaps an authority with a host, a path, a query and a
  fragment. Everything is kept as it is written, so the written form is put together from the
  parts. A path that begins with two slashes could be taken for an authority where there is
  none, and gets a dot in front of it.
-/
namespace TimedTrials

/-- The authority of an address: who asks, a host, which may be empty, and a socket number. -/
structure Authority where
  user : String
  password : Option String
  host : String
  socket : Option Nat
deriving DecidableEq, Repr

def Authority.ofHost (host : String) : Authority := ⟨"", none, host, none⟩

def Authority.anonymous (a : Authority) : Authority := { a with user := "", password := none }

def Authority.text (a : Authority) : String :=
  let asking := a.user ++ (a.password.map (":" ++ ·)).getD ""
  (if asking.isEmpty then "" else asking ++ "@") ++ a.host
    ++ (a.socket.map fun n => ":" ++ toString n).getD ""

structure Endpoint where
  scheme : String
  authority : Option Authority
  path : String
  query : Option String
  fragment : Option String
deriving DecidableEq, Repr

namespace Endpoint

/-- The path with what keeps it apart from an authority. -/
def pathText (e : Endpoint) : String :=
  if e.authority.isNone && "//".toList.isPrefixOf e.path.toList then "/." ++ e.path else e.path

def text (e : Endpoint) : String :=
  e.scheme ++ ":" ++ (e.authority.map fun a => "//" ++ a.text).getD "" ++ e.pathText
    ++ (e.query.map ("?" ++ ·)).getD "" ++ (e.fragment.map ("#" ++ ·)).getD ""

/-! ### Schemes -/

/-- The schemes that always have a host, with their default sockets. -/
def hostSchemes : List (String × Nat) :=
  [("http", 80), ("https", 443), ("ws", 80), ("wss", 443), ("ftp", 21)]

/-- What an address of a scheme looks like: it always has a host, it names a file, or it may have
    a host. In the first two kinds a backslash counts as a slash. -/
inductive SchemeKind where
  | host
  | file
  | other
deriving DecidableEq, Repr

def SchemeKind.of (scheme : String) : SchemeKind :=
  if (hostSchemes.lookup scheme).isSome then .host
  else if scheme = "file" then .file
  else .other

def SchemeKind.isSlash (kind : SchemeKind) (c : Char) : Bool :=
  c == '/' || (c == '\\' && kind != .other)

def defaultSocket? (scheme : String) : Option Nat := hostSchemes.lookup scheme

end Endpoint

end TimedTrials
