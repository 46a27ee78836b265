import Assay.Act
import Assay.Duration
import Assay.Error
import Assay.Url

/-!
# The world of an evaluation

What an evaluation does outside itself: it posts requests, pauses, reads the clock, makes
directories and writes files. A request is a JSON body posted to an address; what comes back is a
status with a body, or nothing.
-/
namespace Assay

/-- A request that is posted. -/
structure Post where
  url : Url
  authorization : Option String
  body : Json.Value
  /-- How long an answer is waited for. -/
  timeout : Option Duration

/-- What comes of posting a request. -/
inductive Delivery where
  /-- The whole answer. -/
  | answered (status : Nat) (body : List UInt8)
  /-- An answer that ended too early, or that was not whole in time. -/
  | cutShort (timedOut : Bool := false)
  /-- No answer, or none in time. -/
  | unanswered (timedOut : Bool)

/-- What is done outside an evaluation. -/
inductive WorldEvent where
  | post (request : Post)
  | wait (span : Duration)
  | now
  /-- Make a directory in one that is there. -/
  | makeDirectory (path : String)
  | isDirectory (path : String)
  /-- Write a text to a file, which takes the place of what it held. -/
  | write (path text : String)

/-- The world and its answers. -/
abbrev world : Interface where
  Event := WorldEvent
  Answer
    | .post _ => Delivery
    | .wait _ => Unit
    | .now => Duration
    | .makeDirectory _ => Except FileFault Unit
    | .isDirectory _ => Bool
    | .write .. => Except FileFault Unit

namespace World

/-- Post a request. -/
def post (request : Post) : Act world Delivery := Act.request (I := world) (.post request)

/-- Pause. -/
def wait (span : Duration) : Act world Unit := Act.request (I := world) (.wait span)

/-- Read the clock. -/
def now : Act world Duration := Act.request (I := world) .now

/-- Make a directory in one that is there. -/
def makeDirectory (path : String) : Act world (Except FileFault Unit) :=
  Act.request (I := world) (.makeDirectory path)

/-- Whether there is a directory under a path. -/
def isDirectory (path : String) : Act world Bool := Act.request (I := world) (.isDirectory path)

/-- Write a text to a file. -/
def write (path text : String) : Act world (Except FileFault Unit) :=
  Act.request (I := world) (.write path text)

end World
end Assay
