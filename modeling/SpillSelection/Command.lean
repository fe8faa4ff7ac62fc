/-!
# Commands

What the words of a command line ask for. A word that begins with a hyphen is an option, except
a hyphen alone; every other word is the command's name, an operand, or the value of the option
before it. After two hyphens every word is an operand. No option is given twice, and `none`
stands for a line that asks for nothing that the program does.
-/

namespace SpillSelection

inductive Command where
  | run (config : String) (output : Option String) (json : Bool)
  | check (config : String) (json : Bool)
  | registry (json : Bool)
  | inspect (records : String) (json : Bool)
deriving DecidableEq, Repr

/-- A command, or the question which version this is. -/
inductive Invocation where
  | version
  | command (command : Command)
deriving DecidableEq, Repr

/-! ## Words -/

/-- A word that can be an operand or the value of an option. -/
def isOperand (word : String) : Bool := word == "-" || word.toList.head? != some '-'

/-- An option with the value that an equals sign attaches to it. -/
def splitOption (word : String) : String × Option String :=
  let cs := word.toList
  (String.ofList (cs.takeWhile (· ≠ '=')),
    match cs.dropWhile (· ≠ '=') with
    | [] => none
    | _ :: value => some (String.ofList value))

/-- The word that asks for the version; more letters after the short form change nothing. -/
def isVersion (word : String) : Bool := word == "--version" || word.toList.take 2 == ['-', 'V']

/-! ## Log levels -/

def levelNames : List String := ["trace", "debug", "info", "warn", "error"]

/-- A level by its name in letters of any case, or by its number, which may have a plus sign and
leading zeros. -/
def isLevel (word : String) : Bool :=
  let digits := match word.toList with
    | '+' :: cs => cs
    | cs => cs
  levelNames.contains (String.ofList (word.toList.map Char.toLower)) ||
    (match digits.dropWhile (· = '0') with
      | [d] => '1' ≤ d && d ≤ '5'
      | _ => false)

/-! ## Options -/

/-- The options and operands after a command's name. -/
structure Options where
  operands : List String := []
  output : Option String := none
  json : Bool := false
  /-- A log level was given. -/
  leveled : Bool := false
deriving DecidableEq, Repr

namespace Options

def giveJson (o : Options) : Option Options :=
  if o.json then none else some { o with json := true }

def giveOutput (o : Options) (output : String) : Option Options :=
  if o.output.isSome then none else some { o with output }

def giveLevel (o : Options) (level : String) : Option Options :=
  if o.leveled || !isLevel level then none else some { o with leveled := true }

/-- Gives an option its value. -/
def give (o : Options) (name value : String) : Option Options :=
  if name = "--output" then o.giveOutput value
  else if name = "--log-level" then o.giveLevel value
  else none

/-- Reads words after those that gave some options. -/
def read (o : Options) : List String → Option Options
  | [] => some o
  | word :: words =>
    if isOperand word then { o with operands := o.operands ++ [word] }.read words
    else if word = "--" then some { o with operands := o.operands ++ words }
    else if word = "--json" then do (← o.giveJson).read words
    else
      match splitOption word with
      | (name, some value) => do (← o.give name value).read words
      | (name, none) =>
        match words with
        | [] => none
        | value :: words => if isOperand value then do (← o.give name value).read words else none

end Options

/-! ## Command lines -/

/-- The command of a name, with its options and operands. -/
def Command.ofOptions? (name : String) (o : Options) : Option Command :=
  match name, o.operands, o.output with
  | "run", [config], output => some (.run config output o.json)
  | "check", [config], none => some (.check config o.json)
  | "registry", [], none => some (.registry o.json)
  | "inspect", [records], none => some (.inspect records o.json)
  | _, _, _ => none

namespace Invocation

/-- The command of a name and the words after it. -/
def ofCommand? (name : String) (words : List String) : Option Invocation := do
  return .command (← Command.ofOptions? name (← Options.read {} words))

/-- What the words of a command line ask for, after options that stood before the command's
name. -/
def read (o : Options) : List String → Option Invocation
  | [] => none
  | word :: words =>
    if isOperand word then ofCommand? word words
    else if isVersion word then some .version
    else
      match splitOption word with
      | ("--log-level", some level) => do read (← o.giveLevel level) words
      | ("--log-level", none) =>
        match words with
        | [] => none
        | level :: words => do read (← o.giveLevel level) words
      | _ => none

/-- What the words of a command line ask for. A log level may stand before the command's name,
and another one after it. -/
def ofWords? (words : List String) : Option Invocation := read {} words

end Invocation

end SpillSelection
