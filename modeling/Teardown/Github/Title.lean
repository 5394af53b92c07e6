import Teardown.Text.Word

/-!
# Titles of workflow runs

The title of a run has to mention the slug of its instance as a whole token: neither side of the
occurrence may be followed by another token character, so that `demo` is not found in the title
of the run for `demo-2`.
-/

namespace Teardown.Github

/-- Whether a side of an occurrence is free: there is no character, or one that is no token
character. -/
def isFree : Option Char → Bool
  | none => true
  | some c => !Text.isToken c

/-- Whether a slug stands at the start of `rest`, after `before`, as a whole token. -/
def standsHere (slug : List Char) (before : Option Char) (rest : List Char) : Bool :=
  isFree before && slug.isPrefixOf rest && isFree (rest.drop slug.length).head?

/-- Whether a slug stands somewhere in `rest`, after `before`, as a whole token. -/
def standsIn (slug : List Char) : Option Char → List Char → Bool
  | before, [] => standsHere slug before []
  | before, c :: rest => standsHere slug before (c :: rest) || standsIn slug (some c) rest

/-- Whether a title mentions a slug as a whole token. -/
def mentions (slug title : String) : Bool :=
  standsIn slug.toList none title.toList

end Teardown.Github
