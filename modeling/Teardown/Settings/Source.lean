import Teardown.Json.Value
import Teardown.Settings.Dotenv
import Teardown.Text.Capital

/-!
# Where settings come from

A setting is given by a variable of its name, in any case. Variables of the environment come
before variables of the file; among variables whose names differ in case only, the last one
counts.
-/

namespace Teardown.Settings

/-- The given values by setting name, in small letters. -/
abbrev Source := List (String × Json)

namespace Source

/-- The variables with their names in small letters; the last of equal names counts. -/
def normalize (given : List (String × Json)) : Source :=
  given.foldl (fun source v => Json.setMember (Text.lowerCase v.1) v.2 source) []

/-- The values of an environment and, if there is one, of a file of variables. -/
def ofEnvironment (environment : List (String × String)) (file : Option String) : Source :=
  let own := normalize (environment.map fun v => (v.1, .str v.2))
  let bound := (file.map (Dotenv.resolved environment)).getD []
  let filed := normalize (bound.map fun v => (v.1, Json.ofText? v.2))
  own ++ filed.filter fun v => match v.2 with
    | .null => false
    | _ => true

end Source

end Teardown.Settings
