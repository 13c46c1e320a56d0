import WritePath.Manager

/-!
# Sessions

Several managers over one disk, by name, with one journal for what all of them tell and one credit for all who
submit to them.  A manager sees the disk as the others have left it, and leaves it to them as it has changed it.

A worker that has crashed takes the engine with it: the index is free to be opened again, even if its manager has
not been closed.
-/

namespace WritePath

structure Session where
  disk : Disk
  managers : Keyed (Manager Engine.Lodged) := []
  /-- All that was told so far. -/
  journal : Journal
  /-- The credit of the submitters. -/
  credit : Nat := Queue.fullCredit

namespace Session

/-- The manager with a name, with the disk and the credit as they are now. -/
def manager? (s : Session) (slot : String) : Option (Manager Engine.Lodged) :=
  (Keyed.get? slot s.managers).map fun m =>
    { m with
      queue.credit := s.credit
      queue.processor.engine.disk := s.disk }

/-- The manager when the engine of a worker that has crashed is gone. -/
def settled (m : Manager Engine.Lodged) : Manager Engine.Lodged :=
  match m.queue.phase with
  | .crashed => m.mapEngine (·.release)
  | .waiting | .running _ _ | .drawing _ | .ending _ | .closed => m

/-- Takes over what a manager has told, and the disk and the credit as it has left them. -/
def takeOver (s : Session) (m : Manager Engine.Lodged) : Manager Engine.Lodged × Session :=
  let m := settled m
  let told := m.queue.processor.journal
  ({ m with queue.processor.journal := told.emptied },
    { s with journal := s.journal.append told, disk := m.engine.disk, credit := m.queue.credit })

/-- Puts a manager back after a call on it. -/
def keep (s : Session) (slot : String) (m : Manager Engine.Lodged) : Session :=
  let (m, s) := s.takeOver m
  { s with managers := Keyed.insert slot m s.managers }

def openIndex (s : Session) (slot : String) (settings : Settings) : Startup Unit × Session :=
  match Manager.openIndex settings s.journal.handling s.disk with
  | (.done m, disk, _) =>
    let m := { m with
      queue.credit := s.credit
      queue.processor.engine.disk := disk }
    (.done (), s.keep slot m)
  | (.failed e, disk, log) => (.failed e, { s with disk := disk, journal := s.journal.record log })
  | (.panicked, disk, log) => (.panicked, { s with disk := disk, journal := s.journal.record log })

def close (s : Session) (slot : String) (m : Manager Engine.Lodged) : Except Failure Unit × Session :=
  let (result, m) := m.close
  let (_, s) := s.takeOver m
  (result, { s with managers := Keyed.erase slot s.managers })

/-- Removes a directory, whoever has an index in it. -/
def removeDirectory (s : Session) (path : String) : Except SystemError Unit × Session :=
  let (result, disk) := s.disk.removeDirectory path
  (result, { s with disk := disk })

end Session

end WritePath
