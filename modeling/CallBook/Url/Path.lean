import CallBook.Url.Percent
import CallBook.Text.Search
/-!
# Paths

A path is read segment by segment into its text, escaped.  One dot stands for nothing, and two
dots take the segment before them away.  In the path of a file, a letter with a colon or bar
is a drive: at the front of the path it is written with a colon and makes the host void.  A
segment that looks like a drive is not taken away by dots, whatever the scheme.
-/

namespace CallBook.Url

namespace Path

/-! ## 1. Segments -/

/-- Does the character end a segment? -/
def isSlash (special : Bool) (c : Char) : Bool := c = '/' || (special && c = '\\')

/-- The text cut at its slashes. -/
def splitSlashes (special : Bool) (cs : List Char) : List (List Char) :=
  cs.foldr (fun c segments =>
    if isSlash special c then [] :: segments
    else
      match segments with
      | segment :: rest => (c :: segment) :: rest
      | [] => [[c]]) [[]]

/-- Does the segment stand for the segment before it? -/
def isDouble (segment : List Char) : Bool :=
  ["..", ".%2e", "%2e.", "%2e%2e"].contains (String.ofList (segment.map Char.toLower))

/-- Does the segment stand for nothing? -/
def isSingle (segment : List Char) : Bool :=
  [".", "%2e"].contains (String.ofList (segment.map Char.toLower))

/-- A letter and a colon or a bar. -/
def isDrive : List Char → Bool
  | [c, d] => c.isAlpha && (d = ':' || d = '|')
  | _ => false

/-- A letter and a colon. -/
def isPlainDrive : List Char → Bool
  | [c, d] => c.isAlpha && d = ':'
  | _ => false

/-- A slash and a drive, which ends there or at something that ends a segment. -/
def beginsWithDrive : List Char → Bool
  | '/' :: c :: d :: rest =>
    isDrive [c, d] && (rest.head?.map ['/', '\\', '?', '#'].contains).getD true
  | _ => false

/-! ## 2. The text of a path -/

/-- The text up to its last slash, and what follows it. -/
def cutAtLast (text : List Char) : List Char × List Char :=
  let last := (text.reverse.takeWhile (· ≠ '/')).reverse
  (text.take (text.length - last.length), last)

/-- The text with a slash at its end. -/
def closed (text : List Char) : List Char :=
  if text.getLast? = some '/' then text else text ++ ['/']

/-- The text without what follows its last slash; a drive of a file stays. -/
def withoutLast (isFile : Bool) (text : List Char) : List Char :=
  let (before, last) := cutAtLast text
  if isFile && isPlainDrive last then text else before

/-- The text without its last slash, if it is not the first one and ends no drive. -/
def opened (text : List Char) : List Char :=
  if text.getLast? = some '/' then
    let (before, last) := cutAtLast text.dropLast
    if before.isEmpty || beginsWithDrive ('/' :: (last ++ ['/'])) then text else text.dropLast
  else text

/-- A path as far as it is read. -/
structure Reading where
  text : List Char
  /-- A drive was found, which has no host. -/
  voidsHost : Bool
deriving Repr, DecidableEq

/-- A path with one more segment, and a slash if there are more. -/
def Reading.add (isFile more : Bool) (r : Reading) (segment : List Char) : Reading :=
  if isDouble segment then
    let text := withoutLast isFile (opened r.text)
    { r with text := if more then closed text else text }
  else if isSingle segment then { r with text := closed r.text }
  else
    let slash := if more then ['/'] else []
    if isFile && r.text.length = 1 && isDrive segment then
      ⟨r.text ++ segment.take 1 ++ [':'] ++ slash, true⟩
    else { r with text := r.text ++ segment ++ slash }

/-- A path with more segments. -/
def Reading.addAll (isFile : Bool) : Reading → List (List Char) → Reading
  | r, [] => r
  | r, [segment] => r.add isFile false segment
  | r, segment :: rest => Reading.addAll isFile (r.add isFile true segment) rest

/-- The path that begins with some text and goes on.  Of several slashes at the front of a
file's path one is kept. -/
def extend (special isFile : Bool) (text cs : List Char) : Reading :=
  let segments := (splitSlashes special cs).map (escape pathSet)
  let r := Reading.addAll isFile ⟨text, false⟩ segments
  if isFile then { r with text := '/' :: r.text.dropWhile (· = '/') } else r

end Path

end CallBook.Url
