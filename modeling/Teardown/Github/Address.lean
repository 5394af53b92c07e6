import Teardown.Failure
import Teardown.Text.Percent
import Teardown.Text.Quoted

/-!
# Addresses of requests

Every request goes to a path below a base address. The host of the base address is written in
small letters and without the port that its scheme implies. Characters that a path cannot hold
are percent encoded, a percent sign stays as it is, and steps to the same or the parent directory
are resolved below a host. A path is put behind all of the base address, its query included; the
fields of a query then take the place of what follows the first question mark. The fragment of
the base address is kept, that of a path is dropped.
-/

namespace Teardown.Github

/-- The address below which a service is found. -/
structure Address where
  /-- Scheme and host, without a slash at the end; empty for an address without a scheme. -/
  origin : String
  /-- The path, and perhaps a query after it, with a slash at the end. -/
  location : String
  /-- The fragment with its mark, or nothing. -/
  fragment : String
deriving DecidableEq, Repr

/-- The characters of a path that need no encoding. -/
def isPathSafe (c : Char) : Bool :=
  0x20 < c.toNat && c.toNat < 0x7F &&
    !(['"', '#', '<', '>', '?', '\x60', '\x7b', '\x7d'].contains c)

/-- The characters of a query that need no encoding. -/
def isQuerySafe (c : Char) : Bool :=
  0x20 < c.toNat && c.toNat < 0x7F && !(['"', '#', '<', '>'].contains c)

/-- The characters of a fragment and its mark that need no encoding. -/
def isFragmentSafe (c : Char) : Bool :=
  0x20 < c.toNat && c.toNat < 0x7F && !(['"', '<', '>', '\x60'].contains c)

/-- Splits a text before the first character that satisfies `p`. -/
def splitBefore (p : Char → Bool) (s : String) : String × String :=
  (String.ofList (s.toList.takeWhile (!p ·)), String.ofList (s.toList.dropWhile (!p ·)))

/-- Refuses control characters in an address. -/
def checkPrintable (s : String) : Except Failure Unit :=
  let isControl (c : Char) : Bool := c.toNat < 0x20 || c.toNat == 0x7F
  match s.toList.dropWhile (!isControl ·) with
  | [] => .ok ()
  | c :: _ =>
    .error (.named "InvalidURL"
      ("Invalid non-printable ASCII character in URL, " ++ Text.quoted (String.singleton c) ++
        " at position " ++ toString (s.toList.takeWhile (!isControl ·)).length ++ "."))

/-- Resolves the steps `.` and `..` of a path. -/
def resolveSteps (segments : List String) : List String :=
  segments.foldl (fun done segment =>
    if segment = "." then done
    else if segment = ".." then (if done = [] ∨ done = [""] then done else done.dropLast)
    else done ++ [segment]) []

/-- The port that a scheme implies. -/
def impliedPort? (scheme : String) : Option Nat :=
  [("ftp", 21), ("http", 80), ("https", 443), ("ws", 80), ("wss", 443)].lookup scheme

/-- The end of a host, which names its port unless the scheme implies it. -/
def portSuffix (scheme text : String) : Except Failure String :=
  if text = "" then .ok ""
  else
    match text.toNat? with
    | none => .error (.named "InvalidURL" ("Invalid port: " ++ Text.quoted text))
    | some port => .ok (if impliedPort? scheme = some port then "" else ":" ++ toString port)

/-- Scheme and host of an address, perhaps with a user before the host. -/
def originOf (scheme authority : String) : Except Failure String := do
  let (user, rest) := splitBefore (· == '@') authority
  let (user, place) := if rest = "" then ("", authority)
    else (user ++ "@", String.ofList (rest.toList.drop 1))
  let isBracketed := place.startsWith "["
  let (host, port) := splitBefore (· == (if isBracketed then ']' else ':')) place
  let (host, port) := if isBracketed then (host ++ "]", String.ofList (port.toList.drop 1))
    else (host, port)
  let suffix ← portSuffix scheme (String.ofList (port.toList.drop 1))
  return scheme ++ "://" ++ user ++ host.map Char.toLower ++ suffix

/-- The address at an origin with everything that follows the host. -/
def Address.place (origin rest : String) : Address :=
  let (rest, fragment) := splitBefore (· == '#') rest
  let (path, query) := splitBefore (· == '?') rest
  let path := if path = "" then "/" else Text.percentEncode isPathSafe path
  let location := path ++ Text.percentEncode isQuerySafe query
  { origin
    location := if location.endsWith "/" then location else location ++ "/"
    fragment := Text.percentEncode isFragmentSafe fragment }

/-- Reads a base address. A text without a scheme is all path. -/
def Address.ofText (text : String) : Except Failure Address := do
  let trimmed := String.ofList ((text.toList.reverse.dropWhile (· == '/')).reverse)
  checkPrintable trimmed
  let (scheme, rest) := splitBefore (· == ':') trimmed
  if "://".toList.isPrefixOf rest.toList then
    let (authority, rest) := splitBefore (fun c => ['/', '?', '#'].contains c)
      (String.ofList (rest.toList.drop 3))
    return .place (← originOf (scheme.map Char.toLower) authority) rest
  else return .place "" trimmed

/-- The address of a path below a base address, with the fields of a query. -/
def Address.target (base : Address) (path : String) (query : List (String × String)) :
    Except Failure String := do
  checkPrintable path
  let (path, _) := splitBefore (· == '#') path
  let (path, own) := splitBefore (· == '?') path
  let below := (Text.percentEncode isPathSafe path).toList.dropWhile (· == '/')
  let (path, own) := splitBefore (· == '?')
    (base.location ++ String.ofList below ++ Text.percentEncode isQuerySafe own)
  let path := if base.origin = "" then path
    else "/".intercalate (resolveSteps (path.splitOn "/"))
  let fields := query.map fun field => Text.formEncode field.1 ++ "=" ++ Text.formEncode field.2
  let suffix := if query = [] then own else "?" ++ "&".intercalate fields
  return base.origin ++ path ++ suffix ++ base.fragment

end Teardown.Github
