import CallBook.Url.Path
import CallBook.Url.Value
/-!
# Reading URLs

Blanks and control characters at both ends are dropped, tabs and line breaks everywhere.  A
text that begins with a scheme and a colon is absolute; any other text needs a base that it is
relative to.  Only bases with a special scheme other than `file` are given here, as they come
from requests that were sent.
-/

namespace CallBook.Url

open CallBook.Url.Path (isSlash isDrive)

/-! ## 1. Pieces of a URL -/

/-- The text that is parsed. -/
def cleaned (text : String) : List Char :=
  let drop := List.dropWhile (fun c : Char => c ≤ ' ')
  ((drop (drop text.toList).reverse).reverse).filter fun c =>
    c != '\t' && c != '\n' && c != '\r'

/-- The scheme that a text begins with, and what follows its colon. -/
def splitScheme (cs : List Char) : Option (String × List Char) :=
  match cs with
  | [] => none
  | c :: _ =>
    if !c.isAlpha then none
    else
      let isSchemeChar (c : Char) := c.isAlphanum || c = '+' || c = '-' || c = '.'
      match cs.dropWhile isSchemeChar with
      | ':' :: rest =>
        some (String.ofList ((cs.takeWhile isSchemeChar).map Char.toLower), rest)
      | _ => none

/-- Does the character end the authority? -/
def endsAuthority (special : Bool) (c : Char) : Bool :=
  isSlash special c || c = '?' || c = '#'

/-- Fragment and what precedes it. -/
def splitFragment (cs : List Char) : List Char × Option String :=
  match Text.splitOnce '#' cs with
  | some (before, fragment) => (before, some (String.ofList (escape fragmentSet fragment)))
  | none => (cs, none)

/-- Path, query and fragment of what follows the authority. -/
def splitTail (special : Bool) (cs : List Char) :
    List Char × Option String × Option String :=
  let (cs, fragment) := splitFragment cs
  match Text.splitOnce '?' cs with
  | some (path, query) =>
    let set := if special then specialQuerySet else querySet
    (path, some (String.ofList (escape set query)), fragment)
  | none => (cs, none, fragment)

/-! ## 2. Authority -/

/-- What precedes and what follows the last `c`. -/
def splitLast (c : Char) (cs : List Char) : Option (List Char × List Char) :=
  (Text.splitOnce c cs.reverse).map fun (after, before) => (before.reverse, after.reverse)

/-- User name and password. -/
def readUserInfo (cs : List Char) : String × String :=
  let written (cs : List Char) := String.ofList (escape userInfoSet cs)
  match Text.splitOnce ':' cs with
  | some (user, password) => (written user, written password)
  | none => (written cs, "")

/-- Cuts a host from the port behind it: at the first colon outside brackets. -/
def splitPort : Bool → List Char → List Char × Option (List Char)
  | _, [] => ([], none)
  | inside, c :: cs =>
    if c = ':' ∧ !inside then ([], some cs)
    else
      let inside := if c = '[' then true else if c = ']' then false else inside
      let (host, port) := splitPort inside cs
      (c :: host, port)

/-- A port, unless it is the usual one of the scheme. -/
def readPort (scheme : String) (cs : List Char) : Except UrlError (Option Nat) :=
  if !cs.all Char.isDigit then .error .badPort
  else if cs.isEmpty then .ok none
  else
    let n := cs.foldl (fun n c => 10 * n + (c.toNat - '0'.toNat)) 0
    if n ≥ 65536 then .error .badPort
    else .ok (if standardPort? scheme = some n then none else some n)

/-- User name, password, host and port. -/
structure Authority where
  user : String
  password : String
  host : Option Host
  port : Option Nat

/-- The host of an authority; with a special scheme there must be one. -/
def readHost (scheme : String) (cs : List Char) : Except UrlError (Option Host) :=
  if isSpecialScheme scheme then
    if cs.isEmpty then .error .emptyHost else (readSpecialHost cs).map some
  else if cs.isEmpty then .ok none
  else (readOtherHost cs).map some

/-- An authority and what is left of it, as a port ends at a backslash; `followed` says whether
anything stands behind it. -/
def readAuthority (scheme : String) (cs : List Char) (followed : Bool) :
    Except UrlError (Authority × List Char) := do
  if cs = ['@'] ∧ followed then .error .emptyHost
  let (userInfo, hostPort) := (splitLast '@' cs).getD ([], cs)
  let (user, password) := readUserInfo userInfo
  let (host, port) := splitPort false hostPort
  let host ← readHost scheme host
  if host.isNone ∧ (port.isSome ∨ user ≠ "" ∨ password ≠ "") then .error .emptyHost
  match port with
  | none => pure ({ user, password, host, port := none }, [])
  | some text =>
    let digits := text.takeWhile (· ≠ '\\')
    let port ← readPort scheme digits
    pure ({ user, password, host, port }, text.drop digits.length)

/-! ## 3. Paths -/

/-- The path that begins with some text and goes on. -/
def readFrom (scheme : String) (text cs : List Char) : Path.Reading :=
  Path.extend (isSpecialScheme scheme) (isFileScheme scheme) text cs

/-- The path that follows a host.  With a special scheme it has one slash at least; with another
scheme there may be no path, and all slashes belong to it. -/
def readPath (scheme : String) (cs : List Char) : Path.Reading :=
  match cs with
  | [] => ⟨if isSpecialScheme scheme then ['/'] else [], false⟩
  | c :: rest =>
    if isSpecialScheme scheme then readFrom scheme ['/'] (if isSlash true c then rest else cs)
    else readFrom scheme (if c = '/' then [] else ['/']) cs

/-! ## 4. URLs -/

/-- What follows the two slashes that introduce an authority. -/
def readAfterSlashes (scheme : String) (cs : List Char) : Except UrlError Url := do
  let special := isSpecialScheme scheme
  let authority := cs.takeWhile (!endsAuthority special ·)
  let rest := cs.drop authority.length
  let (a, left) ← readAuthority scheme authority (!rest.isEmpty)
  let (path, query, fragment) := splitTail special (left ++ rest)
  pure { scheme, user := a.user, password := a.password, host := a.host, port := a.port,
         path := String.ofList (readPath scheme path).text, query, fragment }

/-- A URL without an authority. -/
def withoutAuthority (scheme : String) (path : List Char) (query fragment : Option String) :
    Url :=
  { scheme, user := "", password := "", host := none, port := none,
    path := String.ofList path, query, fragment }

/-- What follows a scheme that is not special. -/
def readOther (scheme : String) (cs : List Char) : Except UrlError Url :=
  match cs with
  | '/' :: '/' :: rest =>
    -- An empty authority is written, unlike none.
    (readAfterSlashes scheme rest).map fun u => { u with host := u.host.or (some (.other "")) }
  | '/' :: rest =>
    let (path, query, fragment) := splitTail false rest
    .ok (withoutAuthority scheme (readFrom scheme ['/'] path).text query fragment)
  | cs =>
    let (path, query, fragment) := splitTail false cs
    .ok (withoutAuthority scheme (escape controlSet path) query fragment)

/-- The host of a file; the name of the own machine counts as none. -/
def readFileHost (cs : List Char) : Except UrlError (Option Host) :=
  if cs.isEmpty then .ok none
  else
    match readSpecialHost cs with
    | .error e => .error e
    | .ok (.domain "localhost") => .ok none
    | .ok host => .ok (some host)

/-- What follows the scheme `file`.  A drive is never a host. -/
def readFile (cs : List Char) : Except UrlError Url :=
  let scheme := "file"
  let url (host : Option Host) (path : Path.Reading) (query fragment : Option String) : Url :=
    { scheme, user := "", password := "", host := if path.voidsHost then none else host,
      port := none, path := String.ofList path.text, query, fragment }
  let slashes := cs.takeWhile (isSlash true)
  if slashes.length < 2 then
    let (path, query, fragment) := splitTail true cs
    .ok (url none (readFrom scheme (if slashes.isEmpty then ['/'] else []) path) query fragment)
  else
    let rest := cs.drop 2
    let name := rest.takeWhile (!endsAuthority true ·)
    let name := if isDrive name then [] else name
    let (path, query, fragment) := splitTail true (rest.drop name.length)
    (readFileHost name).map fun
      | none => url none (readFrom scheme ['/'] path) query fragment
      | some host => url (some host) (readPath scheme path) query fragment

/-- What follows the scheme of an absolute URL. -/
def readAbsolute (scheme : String) (cs : List Char) : Except UrlError Url :=
  if isFileScheme scheme then readFile cs
  else if isSpecialScheme scheme then
    readAfterSlashes scheme (cs.dropWhile (isSlash true))
  else readOther scheme cs

/-- A base with another path. -/
def withPath (base : Url) (text cs : List Char) : Url :=
  let (path, query, fragment) := splitTail true cs
  { base with path := String.ofList (readFrom base.scheme text path).text, query, fragment }

/-- A text without a scheme, relative to a base with a special scheme. -/
def readRelative (base : Url) (cs : List Char) : Except UrlError Url :=
  match cs with
  | [] => .ok base.withoutFragment
  | '#' :: _ => .ok { base with fragment := (splitFragment cs).2 }
  | '?' :: _ =>
    let (_, query, fragment) := splitTail true cs
    .ok { base with query, fragment }
  | _ :: rest =>
    let slashes := cs.takeWhile (isSlash true)
    match slashes.length with
    | 0 => .ok (withPath base (Path.withoutLast false base.path.toList) cs)
    | 1 => .ok (withPath base ['/'] rest)
    | _ =>
      readAfterSlashes base.scheme
        (if slashes.take 2 = ['/', '/'] then cs.drop 2 else cs.drop slashes.length)

/-- The URL that a text is. -/
def parse (text : String) : Except UrlError Url :=
  match splitScheme (cleaned text) with
  | some (scheme, rest) => readAbsolute scheme rest
  | none => .error .relativeWithoutBase

/-- The URL that a text is when it is read relative to a base whose scheme is special and not
`file`. -/
def join (base : Url) (text : String) : Except UrlError Url :=
  let cs := cleaned text
  match splitScheme cs with
  | none => readRelative base cs
  | some (scheme, rest) =>
    let slashes := (rest.takeWhile (isSlash true)).length
    if scheme = base.scheme ∧ slashes < 2 then readRelative base rest
    else readAbsolute scheme rest

end CallBook.Url
