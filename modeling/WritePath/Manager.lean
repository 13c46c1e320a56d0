import WritePath.Opening
import WritePath.Queue

/-!
# Managers of indexes

A manager holds all that one open index needs: the queue with its worker, and a reader that shows the
committed documents as of its last reload.  Before a read the reader is reloaded if it is as old as the
refresh interval; with an interval of zero every read shows the last commit.

A reload that fails is logged, leaves the reader as it was, and is tried again by the next read.

A document can be fatal to the worker.  Whether a workset comes to such a document depends on the documents
alone, so it can be said beforehand: it does unless an earlier document of the workset is refused.
-/

namespace WritePath

namespace Workset

def ofChange (c : Change) (s : Strategies) : Workset :=
  ⟨.single (.change c), s⟩

/-- Removes every document and shows it. -/
def purge : Workset :=
  ⟨.single .purge, ⟨.force, .force⟩⟩

/-- Commits all changes made before. -/
def flush : Workset :=
  ⟨.single .flush, ⟨.force, .none⟩⟩

/-- Shows all changes made before. -/
def refresh : Workset :=
  ⟨.single .refresh, ⟨.none, .force⟩⟩

end Workset

namespace Change

def document? : Change → Option Document
  | .add d | .update d => some d
  | .delete _ => none

end Change

namespace Work

def document? : Work → Option Document
  | .change c | .silent c => c.document?
  | .purge | .flush | .refresh => none

/-- What comes of the first document, among those that works add, that is not taken. -/
def firstReception (receives : Document → Reception) : List Work → Reception
  | [] => .taken
  | w :: rest =>
    match (w.document?.map receives).getD .taken with
    | .taken => firstReception receives rest
    | r => r

end Work

namespace Job

/-- The job of a workset, given what comes of documents: one that comes to a fatal document makes the worker
crash. -/
def ofWorkset (receives : Document → Reception) (w : Workset) : Job :=
  if Work.firstReception receives w.works = .fatal then .crash else .workset w

end Job

/-- What comes of an attempt to open an index. -/
inductive Startup (α : Type) where
  | done (a : α)
  | failed (e : Failure)
  /-- Whoever wanted it does not survive that. -/
  | panicked

structure Manager (ε : Type) where
  name : String
  queue : Queue ε
  /-- The age from which on the reader is reloaded. -/
  refreshInterval : Nat
  /-- When the reader was last reloaded, or opened. -/
  lastReload : Nat

namespace Manager

variable {ε : Type}

/-- A manager over an engine, with the log so far. -/
def start (s : Settings) (handling : Handling) (log : List Log.Record) (engine : ε) : Manager ε :=
  let processor : Processor ε :=
    { index := ⟨s.name⟩
      engine := engine
      journal := { handling := handling, log := log }
      interval := s.commitInterval.toNat }
  let queue := Queue.start processor s.queueSize.toNat
  let whereabouts := s.indexPath.getD "in memory"
  { name := s.name
    queue := queue.note .info ("Opened index '" ++ s.name ++ "' (" ++ whereabouts ++ ")")
    refreshInterval := s.refreshInterval.toNat
    lastReload := queue.now }

/-- Checks the settings, opens the index they describe and makes its queue.  A queue cannot be made too
large: that is a panic, and the index that was opened before is given back. -/
def openIndex (s : Settings) (handling : Handling) (d : Disk) :
    Startup (Manager Engine.Lodged) × Disk × List Log.Record :=
  match s.check with
  | .error flaw => (.failed flaw.failure, d, [])
  | .ok _ =>
    match Opening.run s d with
    | (.error fault, d, log) => (.failed fault.failure, d, log)
    | (.ok index, d, log) =>
      if s.queueSize.toNat ≤ Queue.greatestSize then (.done (start s handling log index.engine), d, [])
      else (.panicked, { index.engine with disk := d }.release.disk, log)

def note (m : Manager ε) (level : Log.Level) (text : String) : Manager ε :=
  { m with queue := m.queue.note level text }

def engine (m : Manager ε) : ε :=
  m.queue.processor.engine

def mapEngine (f : ε → ε) (m : Manager ε) : Manager ε :=
  { m with queue.processor.engine := f m.engine }

/-- The reader is as old as the refresh interval, or older. -/
def isStale (m : Manager ε) : Bool :=
  m.refreshInterval ≤ m.queue.now - m.lastReload

variable [Searchable ε]

def reload (m : Manager ε) : Manager ε :=
  let (result, engine) := Engine.refresh m.engine
  let m := { m with queue.processor.engine := engine }
  match result with
  | .ok _ => { m with lastReload := m.queue.now }
  | .error _ => m.note .warn ("Failed to reload the reader of index '" ++ m.name ++ "'")

/-- The documents that a search sees. -/
def read (m : Manager ε) : List Document × Manager ε :=
  let m := if m.isStale then m.reload else m
  (Searchable.shown m.engine, m)

def count (m : Manager ε) : Nat × Manager ε :=
  let (documents, m) := m.read
  (documents.length, m)

def job (m : Manager ε) (w : Workset) : Job :=
  .ofWorkset (Searchable.receives m.engine) w

/-- Submits a workset without waiting; answers the ticket. -/
def offer (m : Manager ε) (w : Workset) : Nat × Manager ε :=
  let (ticket, queue) := m.queue.offer (m.job w)
  (ticket, { m with queue := queue })

/-- Waits until the submitters with these tickets have been told. -/
def await (m : Manager ε) (tickets : List Nat) : Manager ε :=
  { m with queue := m.queue.await tickets }

def answer (m : Manager ε) (ticket : Nat) : Except Failure Output :=
  m.queue.answer ticket

/-- Waits for something else than the queue: meanwhile the worker goes on. -/
def pause (m : Manager ε) : Manager ε :=
  { m with queue := m.queue.idle 0 }

def submit (m : Manager ε) (w : Workset) : Except Failure Output × Manager ε :=
  let (result, queue) := m.queue.submit (m.job w)
  (result, { m with queue := queue })

/-- Runs what is queued, commits what is pending and closes the index. -/
def close (m : Manager ε) : Except Failure Unit × Manager ε :=
  let (result, queue) := m.queue.close
  let queue := match result with
    | .ok _ => queue.note .info ("Closed index '" ++ m.name ++ "'")
    | .error e => queue.note .warn ("Failed to close index '" ++ m.name ++ "': " ++ e.message)
  (result, { m with queue := queue })

omit [Searchable ε] in
def diagnostic (m : Manager ε) : String :=
  Text.record "LocalIndexManager"
    [("name", Text.quoted m.name), ("orchestrator", m.queue.diagnostic),
      ("refresh_interval", Text.interval m.refreshInterval)] true

end Manager

end WritePath
