import CallBook.Url.Host
/-!
# URLs

A URL has a scheme, perhaps an authority, a path, perhaps a query and a fragment.  All parts
are kept escaped, as they are written.  A path that has segments begins with a slash.  Some
schemes are special: with them a URL always has a host and such a path, and a backslash counts
as a slash.
-/

namespace CallBook

/-- A parsed URL. -/
structure Url where
  scheme : String
  user : String
  password : String
  host : Option Url.Host
  port : Option Nat
  path : String
  query : Option String
  fragment : Option String
deriving Repr, DecidableEq

namespace Url

/-- The port that is used where none is written, for the special schemes but `file`. -/
def standardPort? (scheme : String) : Option Nat :=
  if scheme = "http" ∨ scheme = "ws" then some 80
  else if scheme = "https" ∨ scheme = "wss" then some 443
  else if scheme = "ftp" then some 21
  else none

def isFileScheme (scheme : String) : Bool := scheme = "file"

def isSpecialScheme (scheme : String) : Bool :=
  isFileScheme scheme || (standardPort? scheme).isSome

/-- The port that is connected to. -/
def effectivePort? (u : Url) : Option Nat := u.port.or (standardPort? u.scheme)

/-- The host as it is written. -/
def hostText (u : Url) : Option String := u.host.map Host.text

/-- User name and password as they are written before the host. -/
def userInfoText (u : Url) : String :=
  if u.user = "" ∧ u.password = "" then ""
  else u.user ++ (if u.password = "" then "" else ":" ++ u.password) ++ "@"

/-- The port as it is written behind the host. -/
def portText (u : Url) : String :=
  match u.port with
  | some n => ":" ++ toString n
  | none => ""

/-- The query as it is written, with its mark. -/
def queryText (u : Url) : String :=
  match u.query with
  | some q => "?" ++ q
  | none => ""

/-- The fragment as it is written, with its mark. -/
def fragmentText (u : Url) : String :=
  match u.fragment with
  | some f => "#" ++ f
  | none => ""

/-- What stands between scheme and path.  A file URL without a host has an empty authority;
elsewhere a path that begins with two slashes is kept apart from what could be one. -/
def authorityText (u : Url) : String :=
  match u.host with
  | some h => "//" ++ u.userInfoText ++ h.text ++ u.portText
  | none =>
    if isFileScheme u.scheme then "//"
    else if u.path.toList.take 2 = ['/', '/'] then "/."
    else ""

/-- The URL as it is written. -/
def text (u : Url) : String :=
  u.scheme ++ ":" ++ u.authorityText ++ u.path ++ u.queryText ++ u.fragmentText

/-- Path and query, as a server is asked for them. -/
def target (u : Url) : String :=
  (if u.path = "" then "/" else u.path) ++ u.queryText

/-- The URL without user name and password. -/
def withoutUser (u : Url) : Url := { u with user := "", password := "" }

/-- The URL without its fragment. -/
def withoutFragment (u : Url) : Url := { u with fragment := none }

end Url

end CallBook
