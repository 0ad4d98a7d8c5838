import CallBook.Json.Value
import CallBook.Json.Syntax
import CallBook.Text.Utf8
/-!
# Reading JSON

The grammar is the usual one, with four limits of this library.  Containers nest at most 127
deep.  A number written without point and exponent is an integer from `-2^63` to `2^64 - 1`,
`-0` excepted; any other is a floating-point number.  The digits of a number are gathered
into 64 bits and the later ones only move the point; the gathered value is then multiplied or
divided by a power of ten, and both steps round.  Surrogates must come in pairs.

A reader answers what it read and the text that follows, or how many bytes were left when it
stopped.
-/

namespace CallBook.Json

open Text (byteCount)

/-- Why a reader stopped, and how many bytes it had not read by then. -/
structure Failure where
  reason : Reason
  left : Nat
deriving Repr, DecidableEq

/-- What a reader answers. -/
abbrev Read (α : Type) := Except Failure (α × List Char)

/-- A failure at the start of `rest`. -/
def failHere {α : Type} (reason : Reason) (rest : List Char) : Read α :=
  .error ⟨reason, byteCount rest⟩

/-- A failure one byte into `rest`, at its end if it is empty. -/
def failAfterByte {α : Type} (reason : Reason) (rest : List Char) : Read α :=
  .error ⟨reason, byteCount rest - 1⟩

/-- The characters allowed between tokens. -/
def isSpace (c : Char) : Bool := c = ' ' || c = '\t' || c = '\n' || c = '\r'

def skipSpace (cs : List Char) : List Char := cs.dropWhile isSpace

/-! ## 1. Strings -/

/-- The value of a hexadecimal digit. -/
def hexValue? (c : Char) : Option Nat :=
  if '0' ≤ c ∧ c ≤ '9' then some (c.toNat - '0'.toNat)
  else if 'a' ≤ c ∧ c ≤ 'f' then some (c.toNat - 'a'.toNat + 10)
  else if 'A' ≤ c ∧ c ≤ 'F' then some (c.toNat - 'A'.toNat + 10)
  else none

/-- The value of four hexadecimal digits. -/
def hexValue4? (a b c d : Char) : Option Nat := do
  let a ← hexValue? a
  let b ← hexValue? b
  let c ← hexValue? c
  let d ← hexValue? d
  return ((a * 16 + b) * 16 + c) * 16 + d

/-- The failure where four hexadecimal digits should stand.  Four bytes are taken whatever they
are. -/
def failInHex (cs : List Char) : Read Nat :=
  if byteCount cs < 4 then .error ⟨.endInString, 0⟩
  else .error ⟨.invalidEscape, byteCount cs - 4⟩

/-- Four hexadecimal digits. -/
def readHex (cs : List Char) : Read Nat :=
  match cs with
  | a :: b :: c :: d :: rest =>
    match hexValue4? a b c d with
    | some n => .ok (n, rest)
    | none => failInHex cs
  | _ => failInHex cs

def isLeadingSurrogate (n : Nat) : Bool := 0xD800 ≤ n && n ≤ 0xDBFF

def isTrailingSurrogate (n : Nat) : Bool := 0xDC00 ≤ n && n ≤ 0xDFFF

/-- The character that a surrogate pair stands for. -/
def surrogatePair (leading trailing : Nat) : Char :=
  Char.ofNat ((leading - 0xD800) * 0x400 + (trailing - 0xDC00) + 0x10000)

/-- The second half of a surrogate pair, whose first half was just read. -/
def readTrailing (leading : Nat) (cs : List Char) : Read Char :=
  match cs with
  | [] => failHere .endInString []
  | '\\' :: cs =>
    match cs with
    | [] => failHere .endInString []
    | 'u' :: cs =>
      match readHex cs with
      | .error e => .error e
      | .ok (n, rest) =>
        if isTrailingSurrogate n then .ok (surrogatePair leading n, rest)
        else failHere .loneSurrogate rest
    | cs => failAfterByte .halfSurrogatePair cs
  | cs => failAfterByte .halfSurrogatePair cs

/-- The character that a one-letter escape stands for. -/
def simpleEscape? (c : Char) : Option Char :=
  if c = '"' ∨ c = '\\' ∨ c = '/' then some c
  else if c = 'b' then some '\x08'
  else if c = 'f' then some '\x0c'
  else if c = 'n' then some '\n'
  else if c = 'r' then some '\r'
  else if c = 't' then some '\t'
  else none

/-- The character that an escape stands for, after its backslash. -/
def readEscape (cs : List Char) : Read Char :=
  match cs with
  | [] => failHere .endInString []
  | c :: rest =>
    match simpleEscape? c with
    | some character => .ok (character, rest)
    | none =>
      if c ≠ 'u' then failAfterByte .invalidEscape cs
      else
        match readHex rest with
        | .error e => .error e
        | .ok (n, rest) =>
          if isTrailingSurrogate n then failHere .loneSurrogate rest
          else if isLeadingSurrogate n then readTrailing n rest
          else .ok (Char.ofNat n, rest)

theorem readHex_length {cs rest : List Char} {n : Nat} (h : readHex cs = .ok (n, rest)) :
    rest.length < cs.length := by
  unfold readHex failInHex at h
  split at h
  · split at h
    · cases h; simp only [List.length_cons]; omega
    · split at h <;> cases h
  · split at h <;> cases h

theorem readTrailing_length {leading : Nat} {cs rest : List Char} {c : Char}
    (h : readTrailing leading cs = .ok (c, rest)) : rest.length < cs.length := by
  unfold readTrailing failHere failAfterByte at h
  split at h
  · cases h
  · split at h
    · cases h
    · split at h
      · cases h
      · rename_i hex
        have := readHex_length hex
        split at h
        · simp only [Except.ok.injEq, Prod.mk.injEq] at h
          obtain ⟨-, rfl⟩ := h
          simp only [List.length_cons]; omega
        · cases h
    · cases h
  · cases h

theorem readEscape_length {cs rest : List Char} {c : Char}
    (h : readEscape cs = .ok (c, rest)) : rest.length < cs.length := by
  unfold readEscape failHere failAfterByte at h
  split at h
  · cases h
  · split at h
    · cases h; simp
    · split at h
      · cases h
      · split at h
        · cases h
        · rename_i hex
          have hle := readHex_length hex
          split at h
          · cases h
          · split at h
            · have := readTrailing_length h
              simp only [List.length_cons]; omega
            · simp only [Except.ok.injEq, Prod.mk.injEq] at h
              obtain ⟨-, rfl⟩ := h
              simp only [List.length_cons]; omega

/-- The rest of a string, after its opening quote. -/
def readString (cs : List Char) : Read (List Char) :=
  match cs with
  | [] => failHere .endInString []
  | c :: cs =>
    if c = '"' then .ok ([], cs)
    else if c = '\\' then
      match _h : readEscape cs with
      | .error e => .error e
      | .ok (c, rest) =>
        match readString rest with
        | .error e => .error e
        | .ok (text, rest) => .ok (c :: text, rest)
    else if c.toNat < 0x20 then failHere .controlCharacter cs
    else
      match readString cs with
      | .error e => .error e
      | .ok (text, rest) => .ok (c :: text, rest)
termination_by cs.length
decreasing_by
  · have := readEscape_length _h
    simp only [List.length_cons]; omega
  · simp

/-! ## 2. Numbers -/

/-- The largest value that digits are gathered into. -/
def greatestSignificand : Nat := UInt64.size - 1

/-- The largest exponent that is gathered. -/
def greatestExponent : Nat := Nat.pow 2 31 - 1

def digitValue (c : Char) : Nat := c.toNat - '0'.toNat

/-- Gathers digits into a number as long as it does not exceed `bound`.  Answers the number,
how many digits were gathered, and the rest. -/
def gather (bound : Nat) : Nat → List Char → Nat × Nat × List Char
  | n, [] => (n, 0, [])
  | n, c :: cs =>
    if c.isDigit ∧ n * 10 + digitValue c ≤ bound then
      let (m, count, rest) := gather bound (n * 10 + digitValue c) cs
      (m, count + 1, rest)
    else (n, 0, c :: cs)

def startsWithDigit : List Char → Bool
  | c :: _ => c.isDigit
  | [] => false

/-- The power of ten nearest to which all smaller ones are finite. -/
def greatestPower : Nat := 308

/-- `10 ^ n` rounded, if it is finite. -/
def powerOfTen (n : Nat) : Option Binary64 := Binary64.ofDecimal? false 1 n

/-- `x · 10 ^ e`, rounded after each step; `none` beyond the largest number. -/
def scaleByTen (x : Binary64) (e : Int) : Option Binary64 :=
  if e.natAbs ≤ greatestPower then
    (powerOfTen e.natAbs).bind fun power => if e ≥ 0 then x.mul? power else x.div? power
  else if x.isZero then some x
  else if _h : e ≥ 0 then none
  else
    (powerOfTen greatestPower).bind fun power =>
      (x.div? power).bind fun y => scaleByTen y (e + greatestPower)
termination_by e.natAbs
decreasing_by
  unfold greatestPower at *
  omega

/-- The floating-point number of a gathered significand and a power of ten. -/
def ofParts (negative : Bool) (significand : Nat) (e : Int) (rest : List Char) : Read Number :=
  match (Binary64.ofRatio? false significand 1).bind (scaleByTen · e) with
  | none => failHere .numberOutOfRange rest
  | some x => .ok (.float (if negative then x.neg else x), rest)

/-- A number after its exponent mark. -/
def readExponent (negative : Bool) (significand : Nat) (e : Int) (cs : List Char) :
    Read Number :=
  let (down, cs) : Bool × List Char :=
    match cs with
    | '+' :: cs => (false, cs)
    | '-' :: cs => (true, cs)
    | cs => (false, cs)
  match cs with
  | [] => failHere .endInValue []
  | c :: _ =>
    if !c.isDigit then failAfterByte .invalidNumber cs
    else
      let (n, _, rest) := gather greatestExponent 0 cs
      match rest with
      | d :: rest' =>
        if d.isDigit then
          if significand ≠ 0 ∧ !down then failHere .numberOutOfRange rest'
          else .ok (.float (Binary64.zero negative), rest.dropWhile Char.isDigit)
        else ofParts negative significand (if down then e - n else e + n) rest
      | [] => ofParts negative significand (if down then e - n else e + n) []

/-- A number after its digits: the exponent if there is one. -/
def readMagnitude (negative : Bool) (significand : Nat) (e : Int) (cs : List Char) :
    Read Number :=
  match cs with
  | 'e' :: rest | 'E' :: rest => readExponent negative significand e rest
  | _ => ofParts negative significand e cs

/-- A number after its point. -/
def readFraction (negative : Bool) (significand : Nat) (e : Int) (cs : List Char) :
    Read Number :=
  let (significand, count, rest) := gather greatestSignificand significand cs
  if startsWithDigit rest then
    readMagnitude negative significand (e - count) (rest.dropWhile Char.isDigit)
  else if count = 0 then
    failAfterByte (if rest.isEmpty then .endInValue else .invalidNumber) rest
  else readMagnitude negative significand (e - count) rest

/-- A number without point and exponent. -/
def wholeNumber (negative : Bool) (n : Nat) : Number :=
  if !negative then .integer n
  else if 0 < n ∧ n ≤ Nat.pow 2 63 then .integer (-n)
  else .float (((Binary64.ofRatio? true n 1)).getD (Binary64.zero true))

/-- A number after its sign. -/
def readNumber (negative : Bool) (cs : List Char) : Read Number :=
  match cs with
  | [] => failHere .endInValue []
  | c :: rest =>
    if !c.isDigit then failAfterByte .invalidNumber cs
    else if c = '0' ∧ startsWithDigit rest then failAfterByte .invalidNumber rest
    else
      let (n, _, rest) := gather greatestSignificand 0 cs
      let more := rest.takeWhile Char.isDigit
      let rest := rest.dropWhile Char.isDigit
      match rest with
      | '.' :: rest => readFraction negative n more.length rest
      | 'e' :: rest | 'E' :: rest => readExponent negative n more.length rest
      | _ =>
        if more.isEmpty then .ok (wholeNumber negative n, rest)
        else ofParts negative n more.length rest

/-! ## 3. Values -/

/-- The rest of a word whose first letter was read. -/
def readWord (value : Value) : List Char → List Char → Read Value
  | [], cs => .ok (value, cs)
  | _ :: _, [] => failHere .endInValue []
  | w :: word, c :: cs =>
    if c = w then readWord value word cs else failAfterByte .expectedWord (c :: cs)

/-- The items that follow an item, up to the bracket.  The bound on their number is the
length of the text. -/
def readMoreItems (item : List Char → Read Value) : Nat → List Char → Read (List Value)
  | 0, cs => failAfterByte .endInList cs
  | bound + 1, cs =>
    match skipSpace cs with
    | [] => failAfterByte .endInList []
    | ']' :: rest => .ok ([], rest)
    | ',' :: rest =>
      match skipSpace rest with
      | [] => failAfterByte .endInValue []
      | ']' :: rest => failAfterByte .trailingComma (']' :: rest)
      | rest =>
        match item rest with
        | .error e => .error e
        | .ok (v, rest) =>
          match readMoreItems item bound rest with
          | .error e => .error e
          | .ok (vs, rest) => .ok (v :: vs, rest)
    | rest => failAfterByte .expectedCommaOrBracket rest

/-- The items of an array, after its opening bracket. -/
def readItems (item : List Char → Read Value) (cs : List Char) : Read (List Value) :=
  match skipSpace cs with
  | [] => failAfterByte .endInList []
  | ']' :: rest => .ok ([], rest)
  | rest =>
    match item rest with
    | .error e => .error e
    | .ok (v, rest) =>
      match readMoreItems item rest.length rest with
      | .error e => .error e
      | .ok (vs, rest) => .ok (v :: vs, rest)

/-- A field, after the opening quote of its name. -/
def readField (item : List Char → Read Value) (cs : List Char) : Read (String × Value) :=
  match readString cs with
  | .error e => .error e
  | .ok (name, rest) =>
    match skipSpace rest with
    | [] => failAfterByte .endInObject []
    | ':' :: rest =>
      match item rest with
      | .error e => .error e
      | .ok (v, rest) => .ok ((String.ofList name, v), rest)
    | rest => failAfterByte .expectedColon rest

/-- The fields that follow a field, up to the brace. -/
def readMoreFields (item : List Char → Read Value) :
    Nat → List Char → Read (List (String × Value))
  | 0, cs => failAfterByte .endInObject cs
  | bound + 1, cs =>
    match skipSpace cs with
    | [] => failAfterByte .endInObject []
    | '}' :: rest => .ok ([], rest)
    | ',' :: rest =>
      match skipSpace rest with
      | [] => failAfterByte .endInValue []
      | '"' :: rest =>
        match readField item rest with
        | .error e => .error e
        | .ok (f, rest) =>
          match readMoreFields item bound rest with
          | .error e => .error e
          | .ok (fs, rest) => .ok (f :: fs, rest)
      | '}' :: rest => failAfterByte .trailingComma ('}' :: rest)
      | rest => failAfterByte .keyNotString rest
    | rest => failAfterByte .expectedCommaOrBrace rest

/-- The fields of an object, after its opening brace. -/
def readFields (item : List Char → Read Value) (cs : List Char) :
    Read (List (String × Value)) :=
  match skipSpace cs with
  | [] => failAfterByte .endInObject []
  | '}' :: rest => .ok ([], rest)
  | '"' :: rest =>
    match readField item rest with
    | .error e => .error e
    | .ok (f, rest) =>
      match readMoreFields item rest.length rest with
      | .error e => .error e
      | .ok (fs, rest) => .ok (f :: fs, rest)
  | rest => failAfterByte .keyNotString rest

/-- A value that is not a container. -/
def readScalar (cs : List Char) : Read Value :=
  match cs with
  | [] => failAfterByte .endInValue []
  | 'n' :: rest => readWord .null ['u', 'l', 'l'] rest
  | 't' :: rest => readWord (.bool true) ['r', 'u', 'e'] rest
  | 'f' :: rest => readWord (.bool false) ['a', 'l', 's', 'e'] rest
  | '"' :: rest => (readString rest).map fun (s, rest) => (.string (String.ofList s), rest)
  | '-' :: rest => (readNumber true rest).map fun (n, rest) => (.number n, rest)
  | c :: _ =>
    if c.isDigit then (readNumber false cs).map fun (n, rest) => (.number n, rest)
    else failAfterByte .expectedValue cs

/-- A value in which containers nest at most `depth` deep. -/
def readValue : Nat → List Char → Read Value
  | 0, cs =>
    match skipSpace cs with
    | '[' :: rest => failAfterByte .tooDeep ('[' :: rest)
    | '{' :: rest => failAfterByte .tooDeep ('{' :: rest)
    | rest => readScalar rest
  | depth + 1, cs =>
    match skipSpace cs with
    | '[' :: rest =>
      (readItems (readValue depth) rest).map fun (vs, rest) => (.array vs, rest)
    | '{' :: rest =>
      (readFields (readValue depth) rest).map fun (fs, rest) => (.object (Fields.ofList fs), rest)
    | rest => readScalar rest

/-- How deep containers may nest. -/
def greatestDepth : Nat := 127

/-- A text that holds one value and nothing else. -/
def readText (cs : List Char) : Except Failure Value :=
  match readValue greatestDepth cs with
  | .error e => .error e
  | .ok (v, rest) =>
    match skipSpace rest with
    | [] => .ok v
    | rest => .error ⟨.trailingText, byteCount rest - 1⟩

/-- The value that a text holds. -/
def parse (text : String) : Except SyntaxError Value :=
  match readText text.toList with
  | .ok v => .ok v
  | .error e =>
    let (line, column) := place text.toList (byteCount text.toList - e.left) 1 0
    .error ⟨e.reason, line, column⟩

end CallBook.Json
