import SpillSelection.Spill.Decode
import SpillSelection.Text.Blank
import SpillSelection.Text.Lines
/-!
# Spill records

A sample is a source of bytes with one spill on each line. Blank lines and lines that begin with
`#` are skipped, and a bad line is an error of its own that spoils no other line. The reader
marks the first spill of every subrun: what a record itself says about that is not heeded.
-/

namespace SpillSelection

inductive RecordError where
  | cannotOpen (path message : String)
  /-- The line cannot be read as text. -/
  | unreadable (line : Nat) (message : String)
  | malformed (line : Nat) (fault : Json.Fault)
deriving DecidableEq, Repr

def RecordError.message : RecordError → String
  | .cannotOpen path message => path ++ ": cannot open: " ++ message
  | .unreadable line message => "line " ++ toString line ++ ": I/O error: " ++ message
  | .malformed line fault => "line " ++ toString line ++ ": parse error: " ++ fault.message

/-- A spill, or what is wrong with its line. -/
abbrev RecordItem := Except RecordError Spill

namespace Records

/-! ## Lines -/

/-- A line that holds no record. -/
def isSkipped (trimmed : List Char) : Bool := trimmed.isEmpty || trimmed.head? == some '#'

/-- The record on the text of a line, if there is one. -/
def ofText (line : Nat) (text : String) : Option RecordItem :=
  let trimmed := Text.trim text.toList
  if isSkipped trimmed then none
  else some ((Json.decodeText Spill.ofJson (String.ofList trimmed)).mapError (.malformed line))

/-- What is said of bytes that are no text. -/
def notText : String := "stream did not contain valid UTF-8"

/-- The record on a line, counted from one, if there is one. -/
def ofLine (line : Nat) (bytes : List UInt8) : Option RecordItem :=
  match Text.ofUtf8? bytes with
  | some text => ofText line text
  | none => some (.error (.unreadable line notText))

/-- The records of a source, as they are written. -/
def unmarked (source : List UInt8) : List RecordItem :=
  ((Text.lines source).zipIdx 1).filterMap fun line => ofLine line.2 line.1

end Records

/-! ## Subruns -/

/-- A run with one of its subruns. -/
abbrev Subrun := Int64 × Int64

def Spill.subrun (spill : Spill) : Subrun := (spill.header.run, spill.header.subrun)

/-- The subruns that were met, latest first. -/
structure SubrunMarker where
  seen : List Subrun := []

namespace SubrunMarker

/-- The number of subruns that were met. -/
def count (m : SubrunMarker) : Nat := m.seen.length

/-- Marks a spill as the first of its subrun or not, and remembers the subrun. -/
def mark (m : SubrunMarker) (spill : Spill) : SubrunMarker × Spill :=
  let first := !m.seen.contains spill.subrun
  (if first then ⟨spill.subrun :: m.seen⟩ else m,
   { spill with header := { spill.header with firstInSubrun := first } })

/-- Marks the spills of a list, and gives with each item the state after it. -/
def scan (m : SubrunMarker) : List RecordItem → List (RecordItem × SubrunMarker)
  | [] => []
  | .ok spill :: rest =>
    let (m, spill) := m.mark spill
    (.ok spill, m) :: m.scan rest
  | .error e :: rest => (.error e, m) :: m.scan rest

end SubrunMarker

namespace Records

/-- The records of a source as the reader yields them, each with the state after it. -/
def delivered (source : List UInt8) : List (RecordItem × SubrunMarker) :=
  SubrunMarker.scan {} (unmarked source)

/-- The records of a source as the reader yields them. -/
def read (source : List UInt8) : List RecordItem := (delivered source).map (·.1)

/-- The number of subruns that the reader met in a source. -/
def subruns (source : List UInt8) : Nat :=
  match (delivered source).getLast? with
  | some last => last.2.count
  | none => 0

end Records

end SpillSelection
