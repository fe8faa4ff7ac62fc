/-!
# Lines of a source

A source is a sequence of bytes. A line ends at a line feed, or at the end of the source when
that holds anything after the last line feed; a line feed at the very end begins no further
line. A line is text if its bytes are UTF-8.
-/

namespace SpillSelection.Text

/-- Splits bytes at the line feeds, which belong to no line. `line` holds the bytes of the
current line, latest first. -/
def splitLines (line : List UInt8) : List UInt8 → List (List UInt8)
  | [] => if line.isEmpty then [] else [line.reverse]
  | b :: bs => if b = 10 then line.reverse :: splitLines [] bs else splitLines (b :: line) bs

/-- The physical lines of a source. -/
def lines (source : List UInt8) : List (List UInt8) := splitLines [] source

/-- The text of some bytes, if they are UTF-8. -/
def ofUtf8? (bytes : List UInt8) : Option String :=
  String.fromUTF8? ⟨bytes.toArray⟩

/-- The bytes of a text. -/
def utf8 (text : String) : List UInt8 := text.toUTF8.toList

end SpillSelection.Text
