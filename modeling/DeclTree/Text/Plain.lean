/-
Plain text: what is left of a text when the control sequences and the control characters that a
terminal would obey are taken out.

* `plainFrom_of_written`, `plain_of_written`: a text of written characters stays as it is.

A control sequence begins with an escape and ends as its kind wants it: a short one with its last
character, the strings with a terminator. A blank control that stands inside a sequence is kept, and
what follows it is written as well, up to the next control character, which takes the sequence up
again.
-/

namespace DeclTree.Text

/-! ### Classes of characters -/

/-- The controls that only move on over the page. -/
def isBlankControl (c : Char) : Bool :=
  c = '\t' || c = '\n' || c = '\x0c' || c = '\r'

/-- The characters that are written, blank controls among them. -/
def isWritten (c : Char) : Bool :=
  isBlankControl c || (' ' ≤ c && c ≠ '\x7f')

/-- Whether a character is one of those that take more than one byte. -/
def isWide (c : Char) : Bool :=
  '\x7f' < c

/-- Whether the byte that terminates a string is in the encoding of a character. No character of one
byte has it. -/
def holdsTerminator (c : Char) : Bool :=
  (String.utf8EncodeChar c).contains 0x9c

/-! ### Inside a control sequence -/

/-- How far into a control sequence a text has come. -/
inductive SequencePart where
  /-- Not in a sequence. -/
  | outside
  /-- Behind the escape. -/
  | escape
  /-- Behind the first intermediate character of a short sequence. -/
  | intermediate
  /-- In a sequence with parameters, such as one that sets a colour. -/
  | parameters
  /-- At the beginning of a device string. -/
  | device
  /-- In the parameters of a device string. -/
  | deviceParameters
  /-- In the intermediate characters of a device string. -/
  | deviceIntermediate
  /-- In a string, such as the body of a device string, that the terminator ends. -/
  | string
  /-- In a command to the system, such as one that sets a title, which the bell ends. -/
  | command
deriving DecidableEq, Repr

namespace SequencePart

/-- Whether a blank control in this part is kept. -/
def keepsBlanks : SequencePart → Bool
  | outside | escape | intermediate | parameters => true
  | device | deviceParameters | deviceIntermediate | string | command => false

/-- The part that the character behind the escape leads to. -/
def afterEscape (c : Char) : SequencePart :=
  if c = '[' then parameters
  else if c = ']' then command
  else if c = 'P' then device
  else if c = 'X' || c = '^' || c = '_' then string
  else if ' ' ≤ c && c ≤ '/' then intermediate
  else if '0' ≤ c && c ≤ '~' then outside
  else escape

/-- The part that a character leads to. Cancel and substitute break every sequence off, and an
escape begins a new one. -/
def next (part : SequencePart) (c : Char) : SequencePart :=
  if c = '\x18' || c = '\x1a' then outside
  else if c = '\x1b' then escape
  else match part with
    | outside => outside
    | escape => afterEscape c
    | intermediate => if '0' ≤ c && c ≤ '~' then outside else intermediate
    | parameters => if '@' ≤ c && c ≤ '~' then outside else parameters
    | device =>
        if ' ' ≤ c && c ≤ '/' then deviceIntermediate
        else if '0' ≤ c && c ≤ '?' then deviceParameters
        else if '@' ≤ c && c ≤ '~' then string
        else device
    | deviceParameters =>
        if ' ' ≤ c && c ≤ '/' then deviceIntermediate
        else if '<' ≤ c && c ≤ '~' then string
        else deviceParameters
    | deviceIntermediate => if '0' ≤ c && c ≤ '~' then string else deviceIntermediate
    | string => if holdsTerminator c then outside else string
    | command => if c = '\x07' then outside else command

end SequencePart

/-! ### Plain text -/

/-- Whether a character is kept: outside of sequences, and in one that is `paused`, the written
characters are. -/
def isKept (part : SequencePart) (paused : Bool) (c : Char) : Bool :=
  if paused || part = .outside then isWritten c else part.keepsBlanks && isBlankControl c

/-- The plain text of characters that follow a part of a sequence. A character that is kept pauses
the sequence, and a wide one ends it. -/
def plainFrom (part : SequencePart) (paused : Bool) : List Char → List Char
  | [] => []
  | c :: rest =>
      if isKept part paused c then c :: plainFrom (if isWide c then .outside else part) true rest
      else plainFrom (part.next c) false rest

/-- The plain text of a text. -/
def plain (text : String) : String :=
  String.ofList (plainFrom .outside false text.toList)

theorem plainFrom_of_written (paused : Bool) (cs : List Char)
    (written : ∀ c ∈ cs, isWritten c = true) : plainFrom .outside paused cs = cs := by
  induction cs generalizing paused with
  | nil => rfl
  | cons c rest ih =>
      have kept : isKept .outside paused c = true := by
        simp [isKept, written c (List.mem_cons_self)]
      simp [plainFrom, kept, ih true fun d member => written d (List.mem_cons_of_mem c member)]

theorem plain_of_written (text : String) (written : ∀ c ∈ text.toList, isWritten c = true) :
    plain text = text := by
  simp [plain, plainFrom_of_written false text.toList written]

end DeclTree.Text
