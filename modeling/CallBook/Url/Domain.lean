import CallBook.Text.Composition
import CallBook.Text.Marks
import CallBook.Url.Domain.Direction
import CallBook.Url.Domain.Joining
import CallBook.Url.Domain.Mapping
import CallBook.Url.Percent
import CallBook.Url.Punycode
/-!
# Domain names

A domain is compared and sent in ASCII.  Its characters are mapped and composed first.  A label
that is then beyond ASCII is written in Punycode behind a prefix, and a label that bears the
prefix must be the writing of one.  Labels beyond ASCII have rules: about the character they
begin with, about joiners, and about their direction.
-/

namespace CallBook.Url

namespace Domain

/-- A label as it is shown and as it is sent. -/
structure Label where
  shown : List Char
  sent : List Char
deriving Repr, DecidableEq

/-- What introduces a label in Punycode. -/
def asciiPrefix : List Char := ['x', 'n', '-', '-']

/-- How many characters a label beyond ASCII may have. -/
def greatestLabel : Nat := 1000

/-- How many characters may write a label beyond ASCII. -/
def greatestWriting : Nat := 2000

/-- May a text beyond ASCII be a label? -/
def isLabel (label : List Char) : Bool :=
  label.length ≤ greatestLabel && !((label.head?.map Text.isMark).getD false) &&
    joinersFit [] label && (Text.stripStart? asciiPrefix label).isNone

/-- Is this a text as mapping and composing leave it? -/
def isMapped (label : List Char) : Bool := (mapText? label).map Text.compose = some label

/-- The label that is written in Punycode, its prefix left out. -/
def readWriting? (digits : List Char) : Option (List Char) :=
  if digits.getLast? = some '-' ∨ digits.isEmpty ∨ digits.length > greatestWriting then none
  else (Punycode.decode? digits).filter fun label => isMapped label && isLabel label

/-- A label of a mapped domain. -/
def readLabel? (label : List Char) : Option Label :=
  match Text.stripStart? asciiPrefix label with
  | some digits => (readWriting? digits).map fun shown => ⟨shown, label⟩
  | none =>
    if label.all Punycode.isAscii then some ⟨label, label⟩
    else if isLabel label then some ⟨label, asciiPrefix ++ Punycode.encode label⟩
    else none

/-- ASCII characters that must not stand in a domain. -/
def isForbidden (c : Char) : Bool :=
  c ≤ ' ' || c = '\x7f' ||
  ['%', '#', '/', ':', '<', '>', '?', '@', '[', '\\', ']', '^', '|'].contains c

/-- The labels of a domain. -/
def readLabels? (cs : List Char) : Option (List Label) :=
  match (mapText? cs).map Text.compose with
  | none => none
  | some mapped =>
    if mapped.any isForbidden then none
    else
      ((Text.splitAt '.' mapped).mapM readLabel?).filter fun labels =>
        keepDirections (labels.map Label.shown)

end Domain

/-- A domain in ASCII. -/
def domainToAscii (cs : List Char) : Option (List Char) :=
  (Domain.readLabels? cs).map fun labels => ['.'].intercalate (labels.map Domain.Label.sent)

end CallBook.Url
