import HostBridge.Json.Basic

/-!
# Writing JSON

Two layouts of the same document: the compact one without any space, and the
indented one with two spaces a level and one item a line. Strings escape
quotes, backslashes and control characters and nothing else.
-/

namespace HostBridge.Json

/-- A hexadecimal digit in lower case. -/
def hexDigit (n : Nat) : Char := Nat.digitChar (n % 16)

/-- **A character inside a string.** -/
def escapeChar (c : Char) : List Char :=
  if c = '"' then ['\\', '"']
  else if c = '\\' then ['\\', '\\']
  else if c = '\x08' then ['\\', 'b']
  else if c = '\x0c' then ['\\', 'f']
  else if c = '\n' then ['\\', 'n']
  else if c = '\r' then ['\\', 'r']
  else if c = '\t' then ['\\', 't']
  else if c.toNat < 32 then
    ['\\', 'u', '0', '0', hexDigit (c.toNat / 16), hexDigit c.toNat]
  else [c]

/-- A string with its quotes. -/
def printString (s : String) : List Char :=
  '"' :: (s.toList.flatMap escapeChar ++ ['"'])

/-- A number as it was spelled; the sign of an exponent is written only when
it is a minus. -/
def printNumber (n : JsonNumber) : List Char :=
  (if n.negative then ['-'] else []) ++ n.whole
    ++ (match n.fraction with | none => [] | some f => '.' :: f)
    ++ (match n.exponent with
        | none => []
        | some (negative, e) => 'e' :: ((if negative then ['-'] else []) ++ e))

mutual

/-- **The compact layout.** -/
def printCompact : Json → List Char
  | .null => "null".toList
  | .bool b => (if b then "true" else "false").toList
  | .number n => printNumber n
  | .string s => printString (s.getD "")
  | .array items => '[' :: (printItems items ++ [']'])
  | .object fields => '{' :: (printFields fields ++ ['}'])

/-- Items with commas between them. -/
def printItems : List Json → List Char
  | [] => []
  | [j] => printCompact j
  | j :: rest => printCompact j ++ ',' :: printItems rest

/-- Fields with commas between them. -/
def printFields : List (Option String × Json) → List Char
  | [] => []
  | [(name, j)] => printString (name.getD "") ++ ':' :: printCompact j
  | (name, j) :: rest =>
    printString (name.getD "") ++ ':' :: printCompact j ++ ',' :: printFields rest

end

/-- A line end and the indentation of a level. -/
def newLine (level : Nat) : List Char := '\n' :: List.replicate (2 * level) ' '

mutual

/-- **The indented layout**, at a level of nesting. -/
def printIndented (level : Nat) : Json → List Char
  | .null => "null".toList
  | .bool b => (if b then "true" else "false").toList
  | .number n => printNumber n
  | .string s => printString (s.getD "")
  | .array [] => ['[', ']']
  | .array (j :: rest) => '[' :: (printLines (level + 1) (j :: rest) ++ newLine level ++ [']'])
  | .object [] => ['{', '}']
  | .object (f :: rest) =>
    '{' :: (printFieldLines (level + 1) (f :: rest) ++ newLine level ++ ['}'])

/-- Items, one a line. -/
def printLines (level : Nat) : List Json → List Char
  | [] => []
  | [j] => newLine level ++ printIndented level j
  | j :: rest => newLine level ++ printIndented level j ++ ',' :: printLines level rest

/-- Fields, one a line. -/
def printFieldLines (level : Nat) : List (Option String × Json) → List Char
  | [] => []
  | [(name, j)] =>
    newLine level ++ printString (name.getD "") ++ ':' :: ' ' :: printIndented level j
  | (name, j) :: rest =>
    newLine level ++ printString (name.getD "") ++ ':' :: ' ' :: printIndented level j
      ++ ',' :: printFieldLines level rest

end

/-- The compact text of a document. -/
def compact (j : Json) : String := String.ofList (printCompact j)

/-- The indented text of a document. -/
def indented (j : Json) : String := String.ofList (printIndented 0 j)

end HostBridge.Json
