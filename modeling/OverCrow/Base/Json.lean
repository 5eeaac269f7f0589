import OverCrow.Base.Text

/-!
# JSON texts

The values that a text can denote, the printer of `serde_json` with its two formatters' common
shape, and a reader. Numbers are integers: a fraction or an exponent is refused, as it is by every
integer type that is read from a number. The limit on the depth of a text is left out: no type that
is read here is as deep.
-/

namespace OverCrow.Base

/-- A JSON value; the members of an object are in the order of the text. -/
inductive Json where
  | null
  | bool (b : Bool)
  | number (n : Int)
  | string (s : String)
  | array (elements : List Json)
  | object (members : List (String × Json))

namespace Json

/-- The characters that may stand between tokens. -/
def isSpace (c : Char) : Bool := c = ' ' || c = '\n' || c = '\t' || c = '\r'

/-! ### Printing -/

/-- What is printed before an element or a closing bracket at a depth, and after a colon. -/
structure Formatter where
  gap : Nat → List Char
  afterColon : List Char
  isSpace_gap : ∀ depth, ∀ c ∈ gap depth, isSpace c = true
  isSpace_afterColon : ∀ c ∈ afterColon, isSpace c = true

/-- The formatter of `to_vec_pretty` and `to_writer_pretty`. -/
def prettyFormatter : Formatter where
  gap depth := '\n' :: List.replicate (2 * depth) ' '
  afterColon := [' ']
  isSpace_gap depth := List.forall_mem_cons.mpr
    ⟨rfl, fun c hc => by rw [List.eq_of_mem_replicate hc]; rfl⟩
  isSpace_afterColon := List.forall_mem_singleton.mpr rfl

/-- A character within a string. -/
def escapeChar (c : Char) : List Char :=
  if c = '"' then ['\\', '"']
  else if c = '\\' then ['\\', '\\']
  else if c.toNat = 8 then ['\\', 'b']
  else if c.toNat = 12 then ['\\', 'f']
  else if c = '\n' then ['\\', 'n']
  else if c = '\r' then ['\\', 'r']
  else if c = '\t' then ['\\', 't']
  else if c.toNat < 32 then
    ['\\', 'u', '0', '0', Nat.digitChar (c.toNat / 16), Nat.digitChar (c.toNat % 16)]
  else [c]

def quote (s : String) : List Char := '"' :: (s.toList.flatMap escapeChar ++ ['"'])

def printNumber (n : Int) : List Char :=
  if n < 0 then '-' :: Nat.toDigits 10 n.natAbs else Nat.toDigits 10 n.natAbs

section Print

variable (f : Formatter)

mutual

def print (depth : Nat) : Json → List Char
  | null => "null".toList
  | bool b => if b then "true".toList else "false".toList
  | number n => printNumber n
  | string s => quote s
  | array [] => ['[', ']']
  | array (v :: vs) =>
    '[' :: (f.gap (depth + 1) ++ print (depth + 1) v ++ printElements (depth + 1) vs ++
      f.gap depth ++ [']'])
  | object [] => ['{', '}']
  | object ((key, v) :: members) =>
    '{' :: (f.gap (depth + 1) ++ quote key ++ ':' :: f.afterColon ++ print (depth + 1) v ++
      printMembers (depth + 1) members ++ f.gap depth ++ ['}'])

def printElements (depth : Nat) : List Json → List Char
  | [] => []
  | v :: vs => ',' :: f.gap depth ++ print depth v ++ printElements depth vs

def printMembers (depth : Nat) : List (String × Json) → List Char
  | [] => []
  | (key, v) :: members =>
    ',' :: f.gap depth ++ quote key ++ ':' :: f.afterColon ++ print depth v ++
      printMembers depth members

end

end Print

/-! ### Reading -/

def skipSpace (text : List Char) : List Char := text.dropWhile isSpace

/-- The text after a character that stands next to be read. -/
def expect (c : Char) (text : List Char) : Option (List Char) :=
  match skipSpace text with
  | d :: rest => if d = c then some rest else none
  | [] => none

/-- The value of a hexadecimal digit. -/
def hexValue (c : Char) : Option Nat :=
  if '0' ≤ c ∧ c ≤ '9' then some (c.toNat - 48)
  else if 'a' ≤ c ∧ c ≤ 'f' then some (c.toNat - 87)
  else if 'A' ≤ c ∧ c ≤ 'F' then some (c.toNat - 55)
  else none

def hexValue4 (a b c d : Char) : Option Nat := do
  return ((← hexValue a) * 16 + (← hexValue b)) * 256 + (← hexValue c) * 16 + (← hexValue d)

/-- The character of an escape of one letter. -/
def unescape : Char → Option Char
  | '"' => some '"'
  | '\\' => some '\\'
  | '/' => some '/'
  | 'b' => some (Char.ofNat 8)
  | 'f' => some (Char.ofNat 12)
  | 'n' => some '\n'
  | 'r' => some '\r'
  | 't' => some '\t'
  | _ => none

/-- Half of a pair of surrogates. -/
def isSurrogate (n : Nat) : Bool := 0xd800 ≤ n && n < 0xe000

/-- The character of a pair of surrogates. -/
def surrogatePair (high low : Nat) : Option Char :=
  if high < 0xdc00 ∧ 0xdc00 ≤ low ∧ low < 0xe000 then
    some (Char.ofNat (0x10000 + (high - 0xd800) * 0x400 + (low - 0xdc00)))
  else none

def consChar (c : Char) : Option (List Char × List Char) → Option (List Char × List Char) :=
  Option.map fun (s, rest) => (c :: s, rest)

mutual

/-- A string after its opening quote. -/
def readString : List Char → Option (List Char × List Char)
  | [] => none
  | c :: rest =>
    if c = '"' then some ([], rest)
    else if c = '\\' then readEscape rest
    else if c.toNat < 32 then none
    else consChar c (readString rest)

/-- A string after a backslash. -/
def readEscape : List Char → Option (List Char × List Char)
  | [] => none
  | 'u' :: a :: b :: c :: d :: rest =>
    match hexValue4 a b c d with
    | some n => if isSurrogate n then readLow rest n else consChar (Char.ofNat n) (readString rest)
    | none => none
  | e :: rest =>
    match unescape e with
    | some c => consChar c (readString rest)
    | none => none

/-- A string after the first half of a pair of surrogates. -/
def readLow : List Char → Nat → Option (List Char × List Char)
  | '\\' :: 'u' :: a :: b :: c :: d :: rest, high =>
    match (hexValue4 a b c d).bind (surrogatePair high) with
    | some c => consChar c (readString rest)
    | none => none
  | _, _ => none

end

/-- The digits of a number without leading zeros, with no fraction or exponent after them. -/
def readNat (text : List Char) : Option (Nat × List Char) :=
  let digits := text.takeWhile isAsciiDigit
  let rest := text.dropWhile isAsciiDigit
  if digits = [] ∨ digits.head? = some '0' ∧ digits.length ≠ 1 ∨
      rest.head?.any fun c => c = '.' || c = 'e' || c = 'E' then none
  else some (digitsValue digits, rest)

/-- A value that is no string, array or object. -/
def readScalar : List Char → Option (Json × List Char)
  | 'n' :: 'u' :: 'l' :: 'l' :: rest => some (null, rest)
  | 't' :: 'r' :: 'u' :: 'e' :: rest => some (bool true, rest)
  | 'f' :: 'a' :: 'l' :: 's' :: 'e' :: rest => some (bool false, rest)
  | '-' :: rest =>
    match readNat rest with
    | some (n, rest) => if n = 0 then none else some (number (-n), rest)
    | none => none
  | text => (readNat text).map fun (n, rest) => (number n, rest)

mutual

/-- A value, with a bound on the number of values and separators to be read. -/
def readValue : Nat → List Char → Option (Json × List Char)
  | 0, _ => none
  | fuel + 1, text =>
    match skipSpace text with
    | [] => none
    | c :: rest =>
      if c = '"' then (readString rest).map fun (s, rest) => (string (String.ofList s), rest)
      else if c = '[' then
        match expect ']' rest with
        | some rest => some (array [], rest)
        | none => (readElements fuel rest).map fun (vs, rest) => (array vs, rest)
      else if c = '{' then
        match expect '}' rest with
        | some rest => some (object [], rest)
        | none => (readMembers fuel rest).map fun (members, rest) => (object members, rest)
      else readScalar (c :: rest)

def readElements : Nat → List Char → Option (List Json × List Char)
  | 0, _ => none
  | fuel + 1, text => do
    let (v, rest) ← readValue fuel text
    match expect ',' rest with
    | some rest => (readElements fuel rest).map fun (vs, rest) => (v :: vs, rest)
    | none => (expect ']' rest).map fun rest => ([v], rest)

def readMembers : Nat → List Char → Option (List (String × Json) × List Char)
  | 0, _ => none
  | fuel + 1, text => do
    let (key, rest) ← (expect '"' text).bind readString
    let (v, rest) ← (expect ':' rest).bind (readValue fuel)
    match expect ',' rest with
    | some rest =>
      (readMembers fuel rest).map fun (members, rest) => ((String.ofList key, v) :: members, rest)
    | none => (expect '}' rest).map fun rest => ([(String.ofList key, v)], rest)

end

/-- A text that is one value. -/
def parse (text : List Char) : Option Json :=
  match readValue (text.length + 1) text with
  | some (v, rest) => if skipSpace rest = [] then some v else none
  | none => none

end Json

end OverCrow.Base
