import WritePath.Document

/-!
# Index engines

What the write path asks of an engine that holds an index.  Changes are staged; a commit makes the
staged documents durable; a refresh makes the committed documents visible to readers.  Closing gives
the engine's resources back, and staged changes that were not committed are lost.

Every accepted change and every commit is answered by a stamp.  A call that fails still answers the
engine as it is afterwards, so that "a failed call changes nothing" is something to be proved of an
engine and not built into the interface.
-/

namespace WritePath

/-- What comes of a document that is given to an engine. -/
inductive Reception where
  | taken
  | refused
  /-- Whoever gives it to the engine does not survive that. -/
  | fatal
  deriving DecidableEq, Repr

/-- The number an engine gives to an accepted change or a commit. -/
abbrev Stamp := Nat

/-- Access to one index for writing. -/
class Engine (ε : Type) where
  /-- Stages a document. -/
  add : Document → Call ε Stamp
  /-- Stages the deletion of all documents with an identifier. -/
  delete : String → Call ε Stamp
  /-- Stages the deletion of all documents. -/
  deleteAll : Call ε Stamp
  /-- Makes staged changes durable. -/
  commit : Call ε Stamp
  /-- Makes committed changes visible to readers. -/
  refresh : Call ε Unit
  /-- Gives the resources of the engine back. -/
  close : Call ε Unit

/-- Access to one index for writing and searching. -/
class Searchable (ε : Type) extends Engine ε where
  /-- What would come of a document that is added. -/
  receives : ε → Document → Reception
  /-- The documents that readers see. -/
  shown : ε → List Document

end WritePath
