import Teardown.Text.Blank

/-!
# Variables in a file

A file of variables has one binding on a line: a name, and after an equals sign a value. A value
may stand between apostrophes or double quotes, and then may hold escapes and line ends; any other
value ends before a comment or at the end of its line. A line that is no binding is passed over.

A value may refer to variables as `$\x7bNAME\x7d`, with an optional default after `:-`. A reference
means the value bound earlier in the file, or else the value in the environment.
-/

namespace Teardown.Dotenv

/-- A name with its value; a name without an equals sign has none. -/
abbrev Binding := String × Option String

/-- A character that ends a line. -/
def isLineEnd (c : Char) : Bool :=
  c == '\r' || c == '\n'

/-- A blank character within a line. -/
def isInlineBlank (c : Char) : Bool :=
  Text.isBlank c && !isLineEnd c

/-- The text after the blank characters that do not end the line. -/
def skipInline (cs : List Char) : List Char :=
  cs.dropWhile isInlineBlank

/-- The text after the rest of a line that is no binding. -/
def skipLine (cs : List Char) : List Char :=
  (cs.dropWhile (!isLineEnd ·)).drop 1

/-- Drops the word `export` if blank characters follow it. -/
def skipExport (cs : List Char) : List Char :=
  let word := "export".toList
  if word.isPrefixOf cs then
    match cs.drop word.length with
    | c :: rest => if isInlineBlank c then skipInline rest else cs
    | [] => cs
  else cs

/-- The characters up to a closing quote that has no backslash before it, and the text after
the quote. -/
def untilQuote (quote : Char) : List Char → Option (List Char × List Char)
  | [] => none
  | '\\' :: c :: rest =>
    if c = quote then (untilQuote quote rest).map fun (body, rest) => ('\\' :: c :: body, rest)
    else (untilQuote quote (c :: rest)).map fun (body, rest) => ('\\' :: body, rest)
  | c :: rest =>
    if c = quote then some ([], rest)
    else (untilQuote quote rest).map fun (body, rest) => (c :: body, rest)

/-- The characters up to the last quote that has a backslash before it; that quote then closes
the value. -/
def untilLastEscaped (quote : Char) : List Char → Option (List Char × List Char)
  | [] => none
  | '\\' :: c :: rest =>
    if c = quote then
      match untilLastEscaped quote rest with
      | some (body, rest) => some ('\\' :: c :: body, rest)
      | none => some (['\\'], rest)
    else (untilLastEscaped quote (c :: rest)).map fun (body, rest) => ('\\' :: body, rest)
  | c :: rest => (untilLastEscaped quote rest).map fun (body, rest) => (c :: body, rest)

/-- A quoted value after its opening quote. -/
def quotedBody (quote : Char) (cs : List Char) : Option (List Char × List Char) :=
  (untilQuote quote cs).or (untilLastEscaped quote cs)

/-- The character that an escape stands for between double quotes. -/
def doubleEscape? : Char → Option Char
  | '\\' => some '\\'
  | '\'' => some '\''
  | '"' => some '"'
  | 'a' => some '\x07'
  | 'b' => some '\x08'
  | 'f' => some '\x0c'
  | 'n' => some '\n'
  | 'r' => some '\r'
  | 't' => some '\t'
  | 'v' => some '\x0b'
  | _ => none

/-- The character that an escape stands for between apostrophes. -/
def singleEscape? : Char → Option Char
  | '\\' => some '\\'
  | '\'' => some '\''
  | _ => none

/-- Replaces escapes by the characters that they stand for. -/
def unescape (escape? : Char → Option Char) : List Char → List Char
  | [] => []
  | '\\' :: c :: rest =>
    match escape? c with
    | some d => d :: unescape escape? rest
    | none => '\\' :: unescape escape? (c :: rest)
  | c :: rest => c :: unescape escape? rest

/-- The characters before a comment: a number sign after blank characters. -/
def beforeComment : List Char → List Char
  | [] => []
  | c :: rest =>
    if Text.isBlank c && (rest.dropWhile Text.isBlank).head? == some '#' then []
    else c :: beforeComment rest

/-- A value and the text after it; nothing when a quote is not closed. -/
def readValue (cs : List Char) : Option (String × List Char) :=
  match cs with
  | '\'' :: rest =>
    (quotedBody '\'' rest).map fun (body, rest) =>
      (String.ofList (unescape singleEscape? body), rest)
  | '"' :: rest =>
    (quotedBody '"' rest).map fun (body, rest) =>
      (String.ofList (unescape doubleEscape? body), rest)
  | _ =>
    let line := cs.takeWhile (!isLineEnd ·)
    some (Text.stripEnd (String.ofList (beforeComment line)), cs.dropWhile (!isLineEnd ·))

/-- A name and the text after it; nothing when there is no name. The outer option fails, the inner
one is absent before a comment. -/
def readName (cs : List Char) : Option (Option String × List Char) :=
  match cs with
  | '#' :: _ => some (none, cs)
  | '\'' :: rest =>
    let name := rest.takeWhile (· != '\'')
    match name, rest.dropWhile (· != '\'') with
    | _ :: _, _ :: rest => some (some (String.ofList name), rest)
    | _, _ => none
  | _ =>
    let isName (c : Char) : Bool := c != '=' && c != '#' && !Text.isBlank c
    match cs.takeWhile isName with
    | [] => none
    | name => some (some (String.ofList name), cs.dropWhile isName)

/-- The text after a comment and the end of the line; nothing when something else follows. -/
def finishLine (cs : List Char) : Except (List Char) (List Char) :=
  let cs :=
    match skipInline cs with
    | '#' :: rest => rest.dropWhile (!isLineEnd ·)
    | _ => cs
  match skipInline cs with
  | [] => .ok []
  | '\r' :: '\n' :: rest => .ok rest
  | c :: rest => if isLineEnd c then .ok rest else .error cs

/-- The next binding, if the line holds one, and the text after the line. -/
def readBinding (cs : List Char) : Option Binding × List Char :=
  let cs := skipExport cs
  match readName cs with
  | none => (none, skipLine cs)
  | some (name, rest) =>
    let rest := skipInline rest
    let value : Option (Option String × List Char) :=
      match rest with
      | '=' :: rest => (readValue (skipInline rest)).map fun (value, rest) => (some value, rest)
      | _ => some (none, rest)
    match value with
    | none => (none, skipLine (skipInline (rest.drop 1)))
    | some (value, rest) =>
      match finishLine rest with
      | .ok rest => (name.map fun name => (name, value), rest)
      | .error rest => (none, skipLine rest)

/-- The bindings of a text, in order; every binding takes at least one character, so that the
length of the text bounds their number. -/
def readBindings : Nat → List Char → List Binding
  | 0, _ => []
  | steps + 1, cs =>
    match cs.dropWhile Text.isBlank with
    | [] => []
    | cs =>
      let (binding, rest) := readBinding cs
      binding.toList ++ readBindings steps rest

/-- What a reference to a name means. -/
abbrev Scope := String → Option (Option String)

/-- A reference after its dollar sign and brace: the name, the default, and the text after it. -/
def readReference (cs : List Char) : Option (String × String × List Char) :=
  let name := String.ofList (cs.takeWhile fun c => c != '\x7d' && c != ':')
  match cs.dropWhile fun c => c != '\x7d' && c != ':' with
  | '\x7d' :: rest => some (name, "", rest)
  | ':' :: '-' :: rest =>
    match rest.dropWhile (· != '\x7d') with
    | _ :: after => some (name, String.ofList (rest.takeWhile (· != '\x7d')), after)
    | [] => none
  | _ => none

/-- Replaces the references in a value; the length of the value bounds the number of steps. -/
def interpolate (scope : Scope) : Nat → List Char → List Char
  | 0, cs => cs
  | _, [] => []
  | steps + 1, '$' :: '\x7b' :: rest =>
    match readReference rest with
    | some (name, default, rest) =>
      let value := match scope name with
        | some value => value.getD ""
        | none => default
      value.toList ++ interpolate scope steps rest
    | none => '$' :: interpolate scope steps ('\x7b' :: rest)
  | steps + 1, c :: rest => c :: interpolate scope steps rest

/-- Sets a name; a new name goes to the end, a present name keeps its place. -/
def bind (name : String) (value : Option String) : List Binding → List Binding
  | [] => [(name, value)]
  | (other, old) :: rest =>
    if other = name then (name, value) :: rest else (other, old) :: bind name value rest

/-- Adds a binding to the ones before it, with its references replaced. -/
def resolve (environment : List (String × String)) (done : List Binding) (binding : Binding) :
    List Binding :=
  let scope : Scope := fun name =>
    match done.lookup name with
    | some value => some value
    | none => (environment.lookup name).map some
  let value := binding.2.map fun value =>
    String.ofList (interpolate scope (value.length + 1) value.toList)
  bind binding.1 value done

/-- The text with a line feed for every line end. -/
def plainLines : List Char → List Char
  | '\r' :: '\n' :: rest => '\n' :: plainLines rest
  | '\r' :: rest => '\n' :: plainLines rest
  | c :: rest => c :: plainLines rest
  | [] => []

/-- The variables of a file, each name once. -/
def resolved (environment : List (String × String)) (text : String) : List Binding :=
  (readBindings (text.length + 1) (plainLines text.toList)).foldl (resolve environment) []

end Teardown.Dotenv
