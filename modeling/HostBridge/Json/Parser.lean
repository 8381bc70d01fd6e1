import HostBridge.Json.Basic

/-!
# Reading JSON text

`Json.parse?` reads one document that fills the whole text, blanks aside. The
text is refused when it is not a document: an unknown escape, a raw control
character inside a string, a leading zero, a comma too many, or anything
after the end. What a number or a string stands for is not asked here.

The parser is a recursion on a number, and twice the length of the text is
always enough for it. A text that is refused is refused for what it is and not
for that number.
-/

namespace HostBridge.Json

/-- The characters that may stand between tokens. -/
def isBlank (c : Char) : Bool := c = ' ' || c = '\n' || c = '\t' || c = '\r'

/-- The text without the blanks in front. -/
def skipBlank (cs : List Char) : List Char := cs.dropWhile isBlank

/-! ## Strings -/

/-- What one place of a string holds: a character, or a sixteen bit unit given
by its number. -/
inductive StringUnit where
  | char (c : Char)
  | code (n : Nat)
deriving DecidableEq

/-- The value of a hexadecimal digit. -/
def hexValue? (c : Char) : Option Nat :=
  if '0' ≤ c && c ≤ '9' then some (c.toNat - 48)
  else if 'a' ≤ c && c ≤ 'f' then some (c.toNat - 87)
  else if 'A' ≤ c && c ≤ 'F' then some (c.toNat - 55)
  else none

/-- The value of four hexadecimal digits. -/
def hexUnit? (a b c d : Char) : Option Nat := do
  return ((← hexValue? a) * 16 + (← hexValue? b)) * 256 + (← hexValue? c) * 16 + (← hexValue? d)

/-- The character of a short escape. -/
def shortEscape? (c : Char) : Option Char :=
  if c = '"' then some '"'
  else if c = '\\' then some '\\'
  else if c = '/' then some '/'
  else if c = 'b' then some '\x08'
  else if c = 'f' then some '\x0c'
  else if c = 'n' then some '\n'
  else if c = 'r' then some '\r'
  else if c = 't' then some '\t'
  else none

/-- **The units of a string** up to its closing quote, and the text after it. -/
def scanString : List Char → Option (List StringUnit × List Char)
  | [] => none
  | '"' :: rest => some ([], rest)
  | '\\' :: 'u' :: a :: b :: c :: d :: rest => do
    let n ← hexUnit? a b c d
    let (units, after) ← scanString rest
    return (.code n :: units, after)
  | '\\' :: e :: rest => do
    let x ← shortEscape? e
    let (units, after) ← scanString rest
    return (.char x :: units, after)
  | x :: rest =>
    if x.toNat < 32 || x = '\\' then none
    else do
      let (units, after) ← scanString rest
      return (.char x :: units, after)

/-- The text of a string's units, if every surrogate has its partner. -/
def assemble : List StringUnit → Option (List Char)
  | [] => some []
  | .char x :: rest => (assemble rest).map (x :: ·)
  | .code n :: rest =>
    if n < 0xD800 || 0xE000 ≤ n then (assemble rest).map (Char.ofNat n :: ·)
    else
      match rest with
      | .code m :: rest =>
        if n < 0xDC00 && 0xDC00 ≤ m && m < 0xE000 then
          (assemble rest).map
            (Char.ofNat (0x10000 + (n - 0xD800) * 0x400 + (m - 0xDC00)) :: ·)
        else none
      | _ => none

/-- A string after its opening quote. -/
def parseString (cs : List Char) : Option (Option String × List Char) :=
  (scanString cs).map (fun r => ((assemble r.1).map String.ofList, r.2))

/-! ## Numbers -/

/-- The digits in front, and the rest. -/
def digits (cs : List Char) : List Char × List Char :=
  (cs.takeWhile Char.isDigit, cs.dropWhile Char.isDigit)

/-- The fraction of a number, if a point follows. -/
def parseFraction : List Char → Option (Option (List Char) × List Char)
  | '.' :: cs =>
    match digits cs with
    | ([], _) => none
    | (ds, rest) => some (some ds, rest)
  | cs => some (none, cs)

/-- The sign of an exponent, and the rest. -/
def exponentSign : List Char → Bool × List Char
  | '+' :: cs => (false, cs)
  | '-' :: cs => (true, cs)
  | cs => (false, cs)

/-- The exponent of a number, if one follows. -/
def parseExponent : List Char → Option (Option (Bool × List Char) × List Char)
  | c :: cs =>
    if c = 'e' || c = 'E' then
      let (negative, cs) := exponentSign cs
      match digits cs with
      | ([], _) => none
      | (ds, rest) => some (some (negative, ds), rest)
    else some (none, c :: cs)
  | [] => some (none, [])

/-- **A number**, after its sign. A zero in front stands alone. -/
def parseNumber (negative : Bool) (cs : List Char) : Option (JsonNumber × List Char) :=
  match digits cs with
  | ([], _) => none
  | (whole, rest) =>
    if whole.head? = some '0' && whole.length ≠ 1 then none
    else do
      let (fraction, rest) ← parseFraction rest
      let (exponent, rest) ← parseExponent rest
      return (⟨negative, whole, fraction, exponent⟩, rest)

/-! ## Documents -/

mutual

/-- **A value**, blanks in front of it skipped. The first argument bounds the
nesting. -/
def parseValue : Nat → List Char → Option (Json × List Char)
  | 0, _ => none
  | fuel + 1, cs =>
    match skipBlank cs with
    | 'n' :: 'u' :: 'l' :: 'l' :: rest => some (.null, rest)
    | 't' :: 'r' :: 'u' :: 'e' :: rest => some (.bool true, rest)
    | 'f' :: 'a' :: 'l' :: 's' :: 'e' :: rest => some (.bool false, rest)
    | '"' :: rest => (parseString rest).map (fun r => (.string r.1, r.2))
    | '[' :: rest =>
      match skipBlank rest with
      | ']' :: rest => some (.array [], rest)
      | rest => (parseItems fuel rest).map (fun r => (.array r.1, r.2))
    | '{' :: rest =>
      match skipBlank rest with
      | '}' :: rest => some (.object [], rest)
      | rest => (parseFields fuel rest).map (fun r => (.object r.1, r.2))
    | '-' :: rest => (parseNumber true rest).map (fun r => (.number r.1, r.2))
    | rest => (parseNumber false rest).map (fun r => (.number r.1, r.2))

/-- One or more items up to the closing bracket. -/
def parseItems : Nat → List Char → Option (List Json × List Char)
  | 0, _ => none
  | fuel + 1, cs => do
    let (j, rest) ← parseValue fuel cs
    match skipBlank rest with
    | ',' :: rest =>
      let (items, rest) ← parseItems fuel rest
      return (j :: items, rest)
    | ']' :: rest => return ([j], rest)
    | _ => none

/-- One or more fields up to the closing brace. -/
def parseFields : Nat → List Char → Option (List (Option String × Json) × List Char)
  | 0, _ => none
  | fuel + 1, cs =>
    match skipBlank cs with
    | '"' :: rest => do
      let (name, rest) ← parseString rest
      match skipBlank rest with
      | ':' :: rest =>
        let (j, rest) ← parseValue fuel rest
        match skipBlank rest with
        | ',' :: rest =>
          let (fields, rest) ← parseFields fuel rest
          return ((name, j) :: fields, rest)
        | '}' :: rest => return ([(name, j)], rest)
        | _ => none
      | _ => none
    | _ => none

end

/-- **The document a text spells.** A document nests less deeply than its text
is long. -/
def parse? (s : String) : Option Json :=
  let cs := s.toList
  match parseValue (2 * cs.length + 2) cs with
  | some (j, rest) => if skipBlank rest = [] then some j else none
  | none => none

end HostBridge.Json
