import Teardown.Failure

/-!
# Replies

A reply has a status code and a body, which is a value or a plain text. The replies that do not
depend on the data of the worker are listed here.
-/

namespace Teardown.Api

/-- The body of a reply. -/
inductive Body where
  | json (value : Json)
  | text (text : String)
deriving Repr

/-- A reply to a request. -/
structure Reply where
  status : Nat
  body : Body
deriving Repr

namespace Reply

/-- A reply with an object. -/
def object (status : Nat) (members : Json.Members) : Reply where
  status := status
  body := .json (.obj members)

/-- A reply that a request is turned down by. -/
def detail (status : Nat) (text : String) : Reply :=
  object status [("detail", .str text)]

/-- A reply that reports an error of the caller. -/
def refusal (status : Nat) (message : String) : Reply :=
  object status [("status", .str "error"), ("message", .str message)]

/-- Nothing is found under the path. -/
def notFound : Reply := detail 404 "Not Found"

/-- The path is known, the method is not. -/
def methodNotAllowed : Reply := detail 405 "Method Not Allowed"

/-- The path is known without the slashes at its end. -/
def moved : Reply where
  status := 307
  body := .text ""

/-- The request ended in a failure, of which nothing is told. -/
def broken : Reply where
  status := 500
  body := .text "Internal Server Error"

/-- The reply with an empty body. -/
def withoutBody (r : Reply) : Reply where
  status := r.status
  body := .text ""

end Reply

end Teardown.Api
