import Teardown.CommandLine.Number
import Teardown.Text.Quoted

/-!
# Arguments

The command line holds a command, by default the one that serves requests, and flags with values.
Long flags may be cut short as long as one flag only is meant, and a value may be attached with an
equals sign. After a separator `--` nothing is a flag.

The texts are first sorted into tokens. A text that starts with a hyphen is a value if it is a
negative number or contains a space; otherwise it is a flag, known or not. Then the tokens are
read from left to right, and the first fault ends the reading. What is left over is reported at
the end.
-/

namespace Teardown.CommandLine

/-- The commands. -/
inductive Command where
  | serve
  | stop
deriving DecidableEq, Repr

namespace Command

/-- The word for a command. -/
def word : Command → String
  | .serve => "api"
  | .stop => "stop-deployment"

/-- All commands. -/
def all : List Command := [.serve, .stop]

/-- The command of a word. -/
def ofWord? (word : String) : Option Command :=
  all.find? (·.word == word)

end Command

/-- The flags. -/
inductive Flag where
  | help
  | deploymentId
  | timeout
  | interval
deriving DecidableEq, Repr

namespace Flag

/-- The spellings of a flag. -/
def spellings : Flag → List String
  | .help => ["-h", "--help"]
  | .deploymentId => ["--deployment-id"]
  | .timeout => ["--timeout-seconds"]
  | .interval => ["--check-interval-seconds"]

/-- The name of a flag in messages. -/
def label (f : Flag) : String :=
  "/".intercalate f.spellings

/-- All spellings with their flags. -/
def known : List (String × Flag) :=
  [Flag.help, .deploymentId, .timeout, .interval].flatMap fun f => f.spellings.map (·, f)

end Flag

/-- Why a command line is turned down. -/
inductive UsageError where
  | ambiguous (text : String) (spellings : List String)
  | valueMissing (flag : Flag)
  | valueUnwanted (flag : Flag) (value : String)
  | notInteger (flag : Flag) (value : String)
  | notNumber (flag : Flag) (value : String)
  | unknownCommand (word : String)
  | unrecognized (texts : List String)
  | deploymentMissing
deriving DecidableEq, Repr

namespace UsageError

/-- The name of the program in messages. -/
def program : String := "deploy-worker"

/-- A message about one argument. -/
def about (argument message : String) : String :=
  "argument " ++ argument ++ ": " ++ message

/-- The text of a usage error. -/
def message : UsageError → String
  | .ambiguous text spellings =>
    "ambiguous option: " ++ text ++ " could match " ++ ", ".intercalate spellings
  | .valueMissing flag => about flag.label "expected one argument"
  | .valueUnwanted flag value =>
    about flag.label ("ignored explicit argument " ++ Text.quoted value)
  | .notInteger flag value => about flag.label ("invalid int value: " ++ Text.quoted value)
  | .notNumber flag value => about flag.label ("invalid float value: " ++ Text.quoted value)
  | .unknownCommand word =>
    about "command" ("invalid choice: " ++ Text.quoted word ++ " (choose from " ++
      ", ".intercalate (Command.all.map fun c => Text.quoted c.word) ++ ")")
  | .unrecognized texts => "unrecognized arguments: " ++ " ".intercalate texts
  | .deploymentMissing => "--deployment-id is required for `stop-deployment`"

/-- The line that reports a usage error. -/
def line (e : UsageError) : String :=
  program ++ ": error: " ++ e.message

end UsageError

/-- A text of the command line, sorted. -/
inductive Token where
  | value (text : String)
  | separator
  | flag (flag : Flag) (attached : Option String)
  | unknownFlag (text : String)
deriving DecidableEq, Repr

namespace Token

/-- Splits a text at its first equals sign. -/
def splitValue (text : String) : String × Option String :=
  let cs := text.toList
  (String.ofList (cs.takeWhile (· != '=')),
    match cs.dropWhile (· != '=') with
    | _ :: attached => some (String.ofList attached)
    | [] => none)

/-- The unwanted value behind the short flag for help: short flags may stand in a row, and one
that is unknown is passed over together with what follows it. -/
def afterShortHelp : List Char → Option String
  | 'h' :: rest => afterShortHelp rest
  | '=' :: text => some (String.ofList text)
  | '-' :: rest => some (String.ofList ('-' :: rest))
  | _ => none

/-- Whether a text is a negative number, perhaps with a line feed after it. -/
def isNegative (text : String) : Bool :=
  let isDigit (c : Char) : Bool := (Text.decimalDigit? c).isSome
  match text.toList with
  | '-' :: cs =>
    let cs := if cs.getLast? = some '\n' then cs.dropLast else cs
    match cs.dropWhile isDigit with
    | [] => cs != []
    | '.' :: places => places != [] && places.all isDigit
    | _ => false
  | _ => false

/-- A text that starts with a hyphen but spells no flag. -/
def ofOther (text : String) : Token :=
  if isNegative text || text.contains ' ' then .value text else .unknownFlag text

/-- Sorts a text that stands before a separator. -/
def ofText (text : String) : Except UsageError Token :=
  match text.toList with
  | '-' :: second :: rest =>
    let (name, attached) := splitValue text
    match Flag.known.lookup text, Flag.known.lookup name with
    | some f, _ => .ok (.flag f none)
    | none, some f => .ok (.flag f attached)
    | none, none =>
      if second = '-' then
        match Flag.known.filter fun k => name.toList.isPrefixOf k.1.toList with
        | [] => .ok (ofOther text)
        | [(_, f)] => .ok (.flag f attached)
        | several => .error (.ambiguous text (several.map Prod.fst))
      else if second = 'h' then .ok (.flag .help (afterShortHelp rest))
      else .ok (ofOther text)
  | _ => .ok (.value text)

/-- Sorts the texts of a command line. -/
def ofTexts : List String → Except UsageError (List Token)
  | [] => .ok []
  | text :: rest =>
    if text = "--" then .ok (.separator :: rest.map .value)
    else do
      let token ← ofText text
      return token :: (← ofTexts rest)

end Token

/-- What a command line asks for. -/
structure Arguments where
  command : Command := .serve
  deploymentId : Option Int := none
  timeout : Option Float := none
  interval : Option Float := none
deriving Repr

/-- A command line asks for help or gives arguments. -/
inductive Invocation where
  | help
  | run (arguments : Arguments)
deriving Repr

/-- The tokens that were read so far. -/
structure Draft where
  arguments : Arguments := {}
  /-- Whether a command was given. -/
  commandGiven : Bool := false
  /-- The texts that have no place. -/
  leftOver : List String := []

namespace Draft

/-- Leaves a text over. -/
def leave (d : Draft) (text : String) : Draft :=
  { d with leftOver := d.leftOver ++ [text] }

/-- Takes a command. -/
def setCommand (d : Draft) (command : Command) : Draft :=
  { d with arguments := { d.arguments with command }, commandGiven := true }

/-- Takes the value of a flag. -/
def setFlag (d : Draft) (value : String) : Flag → Except UsageError Draft
  | .help => .error (.valueUnwanted .help value)
  | .deploymentId =>
    match integer? value with
    | some id => .ok { d with arguments := { d.arguments with deploymentId := some id } }
    | none => .error (.notInteger .deploymentId value)
  | .timeout =>
    match float? value with
    | some x => .ok { d with arguments := { d.arguments with timeout := some x } }
    | none => .error (.notNumber .timeout value)
  | .interval =>
    match float? value with
    | some x => .ok { d with arguments := { d.arguments with interval := some x } }
    | none => .error (.notNumber .interval value)

/-- Reads the tokens from left to right. The first value is the command; a separator directly
before or after it, or without any command, is passed over. -/
def read (d : Draft) : List Token → Except UsageError Invocation
  | [] =>
    if d.leftOver = [] then .ok (.run d.arguments) else .error (.unrecognized d.leftOver)
  | .unknownFlag text :: rest => (d.leave text).read rest
  | .separator :: rest => (if d.commandGiven then d.leave "--" else d).read rest
  | .value text :: rest =>
    if d.commandGiven then (d.leave text).read rest
    else
      match Command.ofWord? text, rest with
      | none, _ => .error (.unknownCommand text)
      | some command, .separator :: rest => (d.setCommand command).read rest
      | some command, rest => (d.setCommand command).read rest
  | .flag .help none :: _ => .ok .help
  | .flag flag (some value) :: rest => do (← d.setFlag value flag).read rest
  | .flag flag none :: .value value :: rest => do (← d.setFlag value flag).read rest
  | .flag flag none :: _ => .error (.valueMissing flag)

end Draft

/-- Reads a command line. -/
def Invocation.ofTexts (texts : List String) : Except UsageError Invocation :=
  (Token.ofTexts texts).bind fun tokens => Draft.read {} tokens

end Teardown.CommandLine
