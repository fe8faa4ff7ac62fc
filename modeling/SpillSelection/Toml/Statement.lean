import SpillSelection.Toml.Number
/-!
# Statements of a TOML document

A document is a sequence of statements: headers `[a.b]`, headers `[[a.b]]` of arrays of tables,
and assignments `a.b = value`, each on a line of its own but for blanks and a comment. Values
nest, up to a limit; every step into one leaves fewer characters to read, and the number of
characters bounds the recursion.
-/

namespace SpillSelection.Toml

/-- How many arrays and inline tables may lie in one another, and how many keys dots may join. -/
def deepest : Nat := 79

/-- Drops blanks. -/
def skipBlanks (cs : List Char) : List Char := cs.dropWhile isBlank

/-- Drops a comment. -/
def skipComment : List Char → List Char
  | '#' :: cs => cs.dropWhile isText
  | cs => cs

/-- Drops blanks, line breaks and comments. -/
def skipGap (inComment : Bool) : List Char → List Char
  | [] => []
  | '\r' :: '\n' :: cs => skipGap false cs
  | c :: cs =>
    if c = '\n' then skipGap false cs
    else if inComment then if isText c then skipGap true cs else c :: cs
    else if isBlank c then skipGap false cs
    else if c = '#' then skipGap true cs
    else c :: cs

/-- Reads the rest of a line: blanks, perhaps a comment, and the end of the line or text. -/
def endLine? (cs : List Char) : Option (List Char) :=
  match skipComment (skipBlanks cs) with
  | [] => some []
  | '\n' :: cs => some cs
  | '\r' :: '\n' :: cs => some cs
  | _ => none

/-! ## Keys -/

def isBareKey (c : Char) : Bool := c.isAlphanum || c = '_' || c = '-'

/-- A single key, bare or as a string on one line. -/
def simpleKey : Reader String := fun cs =>
  match cs with
  | c :: _ =>
    if c = '"' ∨ c = '\'' then Text.readLine? cs
    else if isBareKey c then
      some (String.ofList (cs.takeWhile isBareKey), cs.dropWhile isBareKey)
    else none
  | [] => none

/-- At most so many keys joined by dots, with blanks around each. -/
def keys : Nat → Reader (List String)
  | 0, _ => none
  | most + 1, cs => do
    let (k, rest) ← simpleKey (skipBlanks cs)
    match skipBlanks rest with
    | '.' :: rest =>
      let (ks, rest) ← keys most rest
      return (k :: ks, rest)
    | rest => return ([k], rest)

/-! ## Adding entries to tables -/

namespace Entries

/-- Puts a value under a key that is not there yet. -/
def addNew (entries : Entries) (k : String) (v : Value) : Option Entries :=
  match entries.lookup k with
  | none => some (entries ++ [(k, v)])
  | some _ => none

/-- Changes the value of a key. -/
def replace (entries : Entries) (k : String) (v : Value) : Entries :=
  entries.map fun e => if e.1 = k then (k, v) else e

/-- Changes the table at a path, which is made where it is missing: by dotted keys, which may not
enter a table that has a header, or by a header. In an array of tables the last one is meant. -/
def modify (dotted : Bool) (change : Origin → Entries → Option Entries) :
    List String → Origin → Entries → Option Entries
  | [], origin, entries => change origin entries
  | k :: path, _, entries =>
    match entries.lookup k with
    | none => do
      let origin : Origin := if dotted then .dotted else .implied
      let inner ← modify dotted change path origin []
      return entries ++ [(k, .table origin inner)]
    | some (.table origin inner) =>
      if dotted ∧ origin = .header then none
      else do
        let inner ← modify dotted change path origin inner
        return replace entries k (.table origin inner)
    | some (.tables items) =>
      match items.getLast? with
      | some (.table origin inner) => do
        let inner ← modify dotted change path origin inner
        return replace entries k (.tables (items.dropLast ++ [.table origin inner]))
      | _ => none
    | some _ => none

/-- Assigns a value. Dotted keys lead to a table that dotted keys made. -/
def assign (entries : Entries) (path : List String) (k : String) (v : Value) : Option Entries :=
  modify true (fun origin es => if path.isEmpty ∨ origin = .dotted then addNew es k v else none)
    path .header entries

/-- Assigns a value to dotted keys. -/
def assignKeys (entries : Entries) (ks : List String) (v : Value) : Option Entries := do
  assign entries ks.dropLast (← ks.getLast?) v

end Entries

/-! ## Values -/

/-- A value that holds no others. -/
def scalar : Reader Value
  | 't' :: 'r' :: 'u' :: 'e' :: cs => some (.boolean true, cs)
  | 'f' :: 'a' :: 'l' :: 's' :: 'e' :: cs => some (.boolean false, cs)
  | c :: cs =>
    if c = '"' ∨ c = '\'' then
      (Text.read? (c :: cs)).map fun (text, rest) => (.string text, rest)
    else
      match Moment.read? (c :: cs) with
      | some (m, rest) => some (.moment m, rest)
      | none => Number.read? (c :: cs)
  | [] => none

mutual
/-- A value in which at most so many containers lie in one another. -/
def value : Nat → Nat → Reader Value
  | 0, _, _ => none
  | fuel + 1, room, cs =>
    match cs, room with
    | '[' :: cs, room + 1 => do
      let (items, rest) ← arrayItems fuel room (skipGap false cs)
      return (.array items, rest)
    | '{' :: cs, room + 1 =>
      match skipBlanks cs with
      | '}' :: rest => some (.inlineTable [], rest)
      | cs => do
        let (entries, rest) ← tableEntries fuel room [] cs
        return (.inlineTable (Value.closeEntries entries), rest)
    | cs, _ => scalar cs

/-- The items up to the closing bracket; a comma may stand before it. -/
def arrayItems : Nat → Nat → Reader (List Value)
  | 0, _, _ => none
  | fuel + 1, room, cs =>
    match cs with
    | ']' :: rest => some ([], rest)
    | cs => do
      let (v, rest) ← value fuel room cs
      match skipGap false rest with
      | ',' :: rest =>
        let (vs, rest) ← arrayItems fuel room (skipGap false rest)
        return (v :: vs, rest)
      | ']' :: rest => return ([v], rest)
      | _ => none

/-- The entries up to the closing brace, added to those before. -/
def tableEntries : Nat → Nat → Entries → Reader Entries
  | 0, _, _, _ => none
  | fuel + 1, room, entries, cs => do
    let (ks, rest) ← keys deepest cs
    match rest with
    | '=' :: rest =>
      let (v, rest) ← value fuel room (skipBlanks rest)
      let entries ← entries.assignKeys ks v
      match skipBlanks rest with
      | ',' :: rest => tableEntries fuel room entries rest
      | '}' :: rest => return (entries, rest)
      | _ => none
    | _ => none
end

/-! ## Statements -/

inductive Statement where
  | header (path : List String)
  | arrayHeader (path : List String)
  | assignment (keys : List String) (value : Value)

/-- A header or an assignment, up to the end of its line. -/
def statement (fuel : Nat) : Reader Statement
  | '[' :: '[' :: cs => do
    match ← keys deepest cs with
    | (path, ']' :: ']' :: rest) => return (.arrayHeader path, ← endLine? rest)
    | _ => none
  | '[' :: cs => do
    match ← keys deepest cs with
    | (path, ']' :: rest) => return (.header path, ← endLine? rest)
    | _ => none
  | cs => do
    match ← keys deepest cs with
    | (ks, '=' :: rest) =>
      let (v, rest) ← value fuel deepest (skipBlanks rest)
      return (.assignment ks v, ← endLine? rest)
    | _ => none

def statements : Nat → List Char → Option (List Statement)
  | 0, _ => none
  | fuel + 1, cs =>
    match skipBlanks cs with
    | [] => some []
    | c :: rest =>
      if c = '#' ∨ c = '\n' ∨ c = '\r' then do
        statements fuel (← endLine? (c :: rest))
      else do
        let (s, rest) ← statement fuel (c :: rest)
        return s :: (← statements fuel rest)

/-- The statements of a text, which may begin with a byte order mark. -/
def statements? (text : List Char) : Option (List Statement) :=
  let cs := if text.head? = some (Char.ofNat 0xFEFF) then text.tail else text
  statements (cs.length + 1) cs

end SpillSelection.Toml
