/-!
# Reading bytes as text

Files hold bytes. A record or a map document must be well-formed UTF-8, and the first
ill-formed sequence is reported by its length and index. A bundle or a source file is read
leniently: every ill-formed sequence becomes one replacement character, so that a stray byte
never hides the text around it.

Both readings agree on what an ill-formed sequence is: the longest run of bytes that could
still have begun a character, and at least one byte.
-/

namespace SourceTree.Text.Utf8

/-- Why bytes are not UTF-8 text. -/
inductive Fault where
  /-- The `length` bytes from `index` begin no character. -/
  | illFormed (length index : Nat)
  /-- The input ends within the character that starts at `index`. -/
  | truncated (index : Nat)
  deriving DecidableEq, Repr

/-- The wording of a fault. -/
def Fault.message : Fault → String
  | .illFormed length index => s!"invalid utf-8 sequence of {length} bytes from index {index}"
  | .truncated index => s!"incomplete utf-8 byte sequence from index {index}"

/-- Whether `byte` continues a character. -/
def isContinuation (byte : UInt8) : Bool :=
  0x80 ≤ byte && byte ≤ 0xBF

/-- Number of bytes that a character starting with `lead` has; `none` if none starts so. -/
def width? (lead : UInt8) : Option Nat :=
  if lead ≤ 0x7F then some 1
  else if 0xC2 ≤ lead && lead ≤ 0xDF then some 2
  else if 0xE0 ≤ lead && lead ≤ 0xEF then some 3
  else if 0xF0 ≤ lead && lead ≤ 0xF4 then some 4
  else none

/-- Whether `second` may follow `lead`: overlong forms, surrogates and numbers above the last
code point are excluded by the second byte. -/
def followsLead (lead second : UInt8) : Bool :=
  if lead = 0xE0 then 0xA0 ≤ second && second ≤ 0xBF
  else if lead = 0xED then 0x80 ≤ second && second ≤ 0x9F
  else if lead = 0xF0 then 0x90 ≤ second && second ≤ 0xBF
  else if lead = 0xF4 then 0x80 ≤ second && second ≤ 0x8F
  else isContinuation second

/-- How the bytes from `index` fail to be a character. -/
def faultAt (bytes : ByteArray) (index : Nat) : Fault :=
  match bytes[index]? with
  | none => .truncated index
  | some lead =>
      match width? lead with
      | none => .illFormed 1 index
      | some width =>
          match bytes[index + 1]? with
          | none => .truncated index
          | some second =>
              if !followsLead lead second then .illFormed 1 index
              else
                match bytes[index + 2]? with
                | none => .truncated index
                | some third =>
                    if !isContinuation third then .illFormed 2 index
                    else
                      match bytes[index + 3]? with
                      | none => .truncated index
                      | some _ => .illFormed (width - 1) index

/-- The index behind a fault: an unfinished character reaches to the end of the input. -/
def Fault.stop (bytes : ByteArray) : Fault → Nat
  | .illFormed length index => index + length
  | .truncated _ => bytes.size

/-- The first fault at or after `index`. -/
def findFault (bytes : ByteArray) (index : Nat) : Option Fault :=
  if index < bytes.size then
    match bytes.utf8DecodeChar? index with
    | some symbol => findFault bytes (index + symbol.utf8Size)
    | none => some (faultAt bytes index)
  else
    none
termination_by bytes.size - index
decreasing_by
  have := symbol.utf8Size_pos
  omega

/-- The text that the bytes encode, or the first fault. -/
def decode (bytes : ByteArray) : Except Fault String :=
  match String.fromUTF8? bytes with
  | some text => .ok text
  | none => .error ((findFault bytes 0).getD (.truncated 0))

/-- Appends to `done` the lenient reading of the bytes from `index`. -/
def decodeLossyFrom (bytes : ByteArray) (index : Nat) (done : String) : String :=
  if index < bytes.size then
    match bytes.utf8DecodeChar? index with
    | some symbol => decodeLossyFrom bytes (index + symbol.utf8Size) (done.push symbol)
    | none =>
        decodeLossyFrom bytes (max (index + 1) ((faultAt bytes index).stop bytes))
          (done.push '\uFFFD')
  else
    done
termination_by bytes.size - index
decreasing_by
  · have := symbol.utf8Size_pos
    omega
  · omega

/-- The text that the bytes encode, with one replacement character for each ill-formed
sequence. -/
def decodeLossy (bytes : ByteArray) : String :=
  decodeLossyFrom bytes 0 ""

end SourceTree.Text.Utf8
