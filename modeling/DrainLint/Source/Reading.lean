import DrainLint.Source.File
import DrainLint.Text.Quoted

/-! # Reading files

The text of a file from its bytes: strict UTF-8, one byte at a time, with every kind of line end as a
newline.

- `Utf8.Lead`: what the first byte of a character asks of the bytes after it;
- `Utf8.decode`: the characters of a byte string, or the first place where it has none;
- `SourceFile.ofBytes`: the source file with the text of the bytes.
-/

/-! ## UTF-8 -/

namespace DrainLint.Text.Utf8

/-- Why bytes are not a character. -/
inductive Cause where
  | invalidStart
  | invalidContinuation
  | unexpectedEnd
  deriving DecidableEq

def Cause.message : Cause → String
  | invalidStart => "invalid start byte"
  | invalidContinuation => "invalid continuation byte"
  | unexpectedEnd => "unexpected end of data"

/-- The bytes that are not a character: the first of them, its position and their number. -/
structure Fault where
  byte : Nat
  position : Nat
  count : Nat
  cause : Cause
  deriving DecidableEq

def Fault.message (fault : Fault) : String :=
  let place :=
    if fault.count = 1 then
      s!"byte 0x{String.ofList (hexPadded 2 fault.byte)} in position {fault.position}"
    else s!"bytes in position {fault.position}-{fault.position + fault.count - 1}"
  s!"'utf-8' codec can't decode {place}: {fault.cause.message}"

/-- What the first byte of a character asks of the bytes after it: their number, the range of the
first of them, and the bits that the first byte gives. -/
structure Lead where
  owed : Nat
  low : Nat
  high : Nat
  bits : Nat

/-- The first bytes of characters.  The ranges leave out the overlong forms, the surrogates and what
is above the last code point. -/
def lead? (byte : Nat) : Option Lead :=
  if byte < 0x80 then some ⟨0, 0x80, 0xBF, byte⟩
  else if byte < 0xC2 then none
  else if byte < 0xE0 then some ⟨1, 0x80, 0xBF, byte - 0xC0⟩
  else if byte < 0xF0 then
    some ⟨2, if byte = 0xE0 then 0xA0 else 0x80, if byte = 0xED then 0x9F else 0xBF, byte - 0xE0⟩
  else if byte < 0xF5 then
    some ⟨3, if byte = 0xF0 then 0x90 else 0x80, if byte = 0xF4 then 0x8F else 0xBF, byte - 0xF0⟩
  else none

/-- A character of which some bytes are still owed. -/
structure Pending where
  byte : Nat
  seen : Nat
  lead : Lead

def Pending.fault (pending : Pending) (position : Nat) (cause : Cause) : Fault :=
  ⟨pending.byte, position - pending.seen, pending.seen, cause⟩

/-- The characters of the bytes from a position on, after the start of a character. -/
def decodeFrom (position : Nat) : Option Pending → List Nat → Except Fault (List Char)
  | none, [] => .ok []
  | some pending, [] => .error (pending.fault position .unexpectedEnd)
  | none, byte :: rest =>
    match lead? byte with
    | none => .error ⟨byte, position, 1, .invalidStart⟩
    | some lead =>
      if lead.owed = 0 then do
        let chars ← decodeFrom (position + 1) none rest
        return Char.ofNat lead.bits :: chars
      else decodeFrom (position + 1) (some ⟨byte, 1, lead⟩) rest
  | some pending, byte :: rest =>
    let lead := pending.lead
    if lead.low ≤ byte ∧ byte ≤ lead.high then
      let bits := 64 * lead.bits + (byte - 0x80)
      if lead.owed = 1 then do
        let chars ← decodeFrom (position + 1) none rest
        return Char.ofNat bits :: chars
      else
        decodeFrom (position + 1)
          (some ⟨pending.byte, pending.seen + 1, ⟨lead.owed - 1, 0x80, 0xBF, bits⟩⟩) rest
    else .error (pending.fault position .invalidContinuation)

def decode (bytes : List Nat) : Except Fault (List Char) := decodeFrom 0 none bytes

end DrainLint.Text.Utf8

/-! ## Files -/

namespace DrainLint.SourceFile

open Text

/-- The text with a carriage return, alone or before a newline, as a newline. -/
def unifyNewlines : List Char → List Char
  | [] => []
  | '\r' :: '\n' :: rest => '\n' :: unifyNewlines rest
  | c :: rest => (if c = '\r' then '\n' else c) :: unifyNewlines rest

def ofBytes (name : String) (bytes : List Nat) : Except Utf8.Fault SourceFile := do
  let text ← Utf8.decode bytes
  return ⟨name, unifyNewlines text⟩

end DrainLint.SourceFile
