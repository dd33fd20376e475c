/-
JSON string literals. In writing, only the double quote, the backslash and the controls below U+0020
are escaped. In reading, a literal is first a list of pieces, characters and the code units of `\u`
escapes; the pieces make a text when each surrogate among the units is one of a pair.
-/

namespace DeclTree.Json

/-! ### Writing -/

/-- The lowercase hexadecimal digit of a number below sixteen. -/
def hexDigit (n : Nat) : Char := Nat.digitChar n

/-- The written form of one character inside a literal. -/
def writeChar (c : Char) : List Char :=
  if c = '"' then ['\\', '"']
  else if c = '\\' then ['\\', '\\']
  else if c = '\x08' then ['\\', 'b']
  else if c = '\x0c' then ['\\', 'f']
  else if c = '\n' then ['\\', 'n']
  else if c = '\r' then ['\\', 'r']
  else if c = '\t' then ['\\', 't']
  else if c.toNat < 0x20 then
    ['\\', 'u', '0', '0', hexDigit (c.toNat / 16), hexDigit (c.toNat % 16)]
  else [c]

/-- The literal of a text; for want of one, a literal that has none. -/
def writeLiteral : Option String → List Char
  | some text => '"' :: text.toList.flatMap writeChar ++ ['"']
  | none => ['"', '\\', 'u', 'd', '8', '0', '0', '"']

/-! ### Reading -/

/-- The value of a hexadecimal digit of either case. -/
def hexValue? (c : Char) : Option Nat :=
  if c.isDigit then some (c.toNat - '0'.toNat)
  else if 'a' ≤ c ∧ c ≤ 'f' then some (c.toNat - 'a'.toNat + 10)
  else if 'A' ≤ c ∧ c ≤ 'F' then some (c.toNat - 'A'.toNat + 10)
  else none

/-- The value of four hexadecimal digits. -/
def codeUnit? (a b c d : Char) : Option Nat := do
  let a ← hexValue? a
  let b ← hexValue? b
  let c ← hexValue? c
  let d ← hexValue? d
  return ((a * 16 + b) * 16 + c) * 16 + d

/-- What a literal consists of. -/
inductive Piece where
  /-- A character, by itself or escaped by a letter or mark. -/
  | char (c : Char)
  /-- The code unit of a `\u` escape. -/
  | unit (value : Nat)
deriving DecidableEq, Repr

/-- The character that a mark behind a backslash stands for. -/
def markChar? : Char → Option Char
  | '"' => some '"'
  | '\\' => some '\\'
  | '/' => some '/'
  | 'b' => some '\x08'
  | 'f' => some '\x0c'
  | 'n' => some '\n'
  | 'r' => some '\r'
  | 't' => some '\t'
  | _ => none

/-- The pieces up to the closing quote, and what is behind it. Controls have to be escaped. -/
def readPieces? : List Char → Option (List Piece × List Char)
  | '"' :: rest => some ([], rest)
  | '\\' :: 'u' :: a :: b :: c :: d :: rest => do
      let unit ← codeUnit? a b c d
      let (pieces, rest) ← readPieces? rest
      return (.unit unit :: pieces, rest)
  | '\\' :: mark :: rest => do
      let c ← markChar? mark
      let (pieces, rest) ← readPieces? rest
      return (.char c :: pieces, rest)
  | c :: rest =>
      if c.toNat < 0x20 then none
      else do
        let (pieces, rest) ← readPieces? rest
        return (.char c :: pieces, rest)
  | [] => none

/-- Whether a code unit is the first of a surrogate pair. -/
def isLeading (unit : Nat) : Bool := 0xd800 ≤ unit && unit < 0xdc00

/-- Whether a code unit is the second of a surrogate pair. -/
def isTrailing (unit : Nat) : Bool := 0xdc00 ≤ unit && unit < 0xe000

/-- The text of a literal, if every surrogate is one of a pair. -/
def joinPieces? : List Piece → Option (List Char)
  | [] => some []
  | .char c :: rest => (joinPieces? rest).map (c :: ·)
  | .unit first :: .unit second :: rest =>
      if isLeading first then
        if isTrailing second then
          (joinPieces? rest).map
            (Char.ofNat (0x10000 + (first - 0xd800) * 0x400 + (second - 0xdc00)) :: ·)
        else none
      else if isTrailing first then none
      else (joinPieces? (.unit second :: rest)).map (Char.ofNat first :: ·)
  | .unit unit :: rest =>
      if isLeading unit || isTrailing unit then none
      else (joinPieces? rest).map (Char.ofNat unit :: ·)

/-- A literal whose opening quote has been read, and what is behind it. -/
def readLiteral? (cs : List Char) : Option (Option String × List Char) :=
  (readPieces? cs).map fun (pieces, rest) => ((joinPieces? pieces).map String.ofList, rest)

end DeclTree.Json
