/-!
# Lengths and cuts in bytes

Some positions in a text count the bytes that encode it and not its characters. A text can only be
cut at such a position if it stands between two characters.
-/

namespace SourceTree.Text

/-- Number of bytes that encode `text`. -/
def byteLength (text : List Char) : Nat :=
  text.foldl (fun size symbol => size + symbol.utf8Size) 0

/-- The text after its first `count` bytes, unless these end within a character or beyond it. -/
def dropBytes? : (count : Nat) → List Char → Option (List Char)
  | 0, text => some text
  | _ + 1, [] => none
  | count + 1, symbol :: rest =>
      if symbol.utf8Size ≤ count + 1 then dropBytes? (count + 1 - symbol.utf8Size) rest else none

/-- The first `count` bytes of a text, unless these end within a character or beyond it. -/
def takeBytes? : (count : Nat) → List Char → Option (List Char)
  | 0, _ => some []
  | _ + 1, [] => none
  | count + 1, symbol :: rest =>
      if symbol.utf8Size ≤ count + 1 then
        (takeBytes? (count + 1 - symbol.utf8Size) rest).map (symbol :: ·)
      else none

/-- The part of a text between two positions. -/
def slice? (text : List Char) (start stop : Nat) : Option (List Char) :=
  (dropBytes? start text).bind (takeBytes? (stop - start))

end SourceTree.Text
