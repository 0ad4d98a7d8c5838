import CallBook.Text.Search
/-!
# Targets

Not every URL can be asked for.  Its text must not be too long; behind the scheme and two
slashes there must be an authority, and a text without these two slashes must be an authority
itself.  An authority is scanned up to a slash, a question mark or a hash: escapes are for user
names only, brackets for one address, and behind them there is one colon at most.
-/

namespace CallBook.Http

namespace Target

/-- How long a URL may be. -/
def greatestLength : Nat := 65534

/-- How long a scheme may be. -/
def greatestScheme : Nat := 64

/-- How many colons may stand in a row of an authority. -/
def greatestColons : Nat := 8

/-- A character of an authority, one that has a meaning of its own apart. -/
def isPlainChar (c : Char) : Bool :=
  c.isAlphanum ||
    ['-', '.', '_', '~', '!', '$', '&', '\x27', '(', ')', '*', '+', ',', ';', '='].contains c

/-- Does the character end an authority? -/
def endsAuthority (c : Char) : Bool := c = '/' || c = '?' || c = '#'

/-- What is known of the part of an authority that was scanned. -/
structure Scan where
  /-- The colons since the last at sign or closing bracket. -/
  colons : Nat
  opened : Bool
  closed : Bool
  /-- An escape stands behind the last at sign or closing bracket. -/
  escaped : Bool
  /-- The last character was an at sign. -/
  afterAt : Bool
deriving Repr, DecidableEq

/-- Nothing is scanned. -/
def Scan.start : Scan := ⟨0, false, false, false, false⟩

/-- One more character, if it may be there. -/
def Scan.next? (s : Scan) (c : Char) : Option Scan :=
  let s := { s with afterAt := c = '@' }
  if c = ':' then
    if greatestColons ≤ s.colons then none else some { s with colons := s.colons + 1 }
  else if c = '[' then if s.escaped || s.opened then none else some { s with opened := true }
  else if c = ']' then
    if !s.opened || s.closed then none
    else some { s with closed := true, colons := 0, escaped := false }
  else if c = '@' then some { s with colons := 0, escaped := false }
  else if c = '%' then some { s with escaped := true }
  else if isPlainChar c then some s
  else none

/-- Can an authority end here? -/
def Scan.isComplete (s : Scan) : Bool :=
  s.opened = s.closed && s.colons ≤ 1 && !s.escaped && !s.afterAt

/-- Can the text be an authority? -/
def isAuthority (cs : List Char) : Bool :=
  ((cs.foldlM Scan.next? Scan.start).map Scan.isComplete).getD false

end Target

/-- Can a URL with this text be asked for? -/
def isTarget (text : List Char) : Bool :=
  text.length ≤ Target.greatestLength &&
  match Text.splitFirst [':', '/', '/'] text with
  | some (scheme, rest) =>
    if scheme.contains ':' then Target.isAuthority text
    else
      let authority := rest.takeWhile (!Target.endsAuthority ·)
      scheme.length ≤ Target.greatestScheme && !authority.isEmpty &&
        Target.isAuthority authority
  | none => Target.isAuthority text

end CallBook.Http
