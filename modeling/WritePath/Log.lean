/-!
# Log records

What the library has to say beside its answers: records of a level and a text, in the order in which
they arise.  They are data like any other result; whoever runs the library decides which levels to
show.
-/

namespace WritePath.Log

/-- How much a record matters, the most severe level first. -/
inductive Level where
  | error | warn | info | debug | trace
  deriving DecidableEq, Repr

namespace Level

def rank : Level → Nat
  | .error => 1
  | .warn => 2
  | .info => 3
  | .debug => 4
  | .trace => 5

def word : Level → String
  | .error => "ERROR"
  | .warn => "WARN"
  | .info => "INFO"
  | .debug => "DEBUG"
  | .trace => "TRACE"

end Level

structure Record where
  level : Level
  text : String
  deriving DecidableEq

/-- The records of a level and of more severe ones. -/
def upTo (level : Level) (records : List Record) : List Record :=
  records.filter (fun r => r.level.rank ≤ level.rank)

end WritePath.Log
