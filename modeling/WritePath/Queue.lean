import WritePath.Workset

/-!
# The queue of worksets

A bounded queue stands before the processor of an index, and one worker serves it.  A submitter puts its
job into the queue, waits in front of it while it is full, and is then told what became of the job.

The worker takes the first job and opens a batch, runs that job and those behind it, at most as many as
the queue can hold, and ends the batch.  While it waits for a first job it commits what has been pending
long enough.  Submitters who wait in front of the queue enter in the order in which they came.

A job may make the worker crash.  Then the job itself and all jobs in the queue are told that they were
dropped, and everyone who is still in front of the queue, or comes later, that the index is closed.

All submitters share one thread with the worker.  So that nobody else is kept waiting for ever, they have a
*credit*: passing something into the queue, being told something and being turned away cost one each, and
without credit a submitter can only wait.  The credit is full again when the submitters have let the worker
go on until it has nothing to do.

The state moves by small steps: `offer`, `visit` and `leave` for submitters, `step?` for the worker, which
takes a first job, runs a job, looks for another one or ends the batch, and `expire` for a commit that is
due.  `settle` lets the worker go on until it has nothing to do; every step makes the `load` smaller, so
`load` steps are enough.  `await` is the schedule of one thread: the worker settles, then every submitter
who still waits is visited in the order of the submissions, until all have been told.
-/

namespace WritePath

inductive Job where
  | workset (w : Workset)
  /-- A workset whose only work makes the worker crash. -/
  | crash
  deriving DecidableEq

structure Entry where
  /-- The number of the submission. -/
  ticket : Nat
  job : Job
  /-- The submitter still waits to be told. -/
  listening : Bool := true
  deriving DecidableEq

/-- The entry when the submitter with a ticket has stopped listening. -/
def Entry.deafen (ticket : Nat) (e : Entry) : Entry :=
  if e.ticket = ticket then { e with listening := false } else e

inductive Phase where
  /-- At the top of its loop. -/
  | waiting
  /-- Inside a batch that has run `count` jobs; `next` has left the queue and runs next. -/
  | running (next : Entry) (count : Nat)
  /-- Inside a batch that has run `count` jobs, about to look for another one. -/
  | drawing (count : Nat)
  /-- At the end of a batch of `count` jobs. -/
  | ending (count : Nat)
  | crashed
  /-- The queue was closed and the worker has come to its end. -/
  | closed

namespace Phase

/-- The job that has left the queue and has not been run. -/
def held : Phase → List Entry
  | .running next _ => [next]
  | .waiting | .drawing _ | .ending _ | .crashed | .closed => []

def isOver : Phase → Bool
  | .crashed | .closed => true
  | .waiting | .running _ _ | .drawing _ | .ending _ => false

/-- The phase when the submitter with a ticket has stopped listening. -/
def deafen (ticket : Nat) : Phase → Phase
  | .running next count => .running (next.deafen ticket) count
  | .waiting => .waiting
  | .drawing count => .drawing count
  | .ending count => .ending count
  | .crashed => .crashed
  | .closed => .closed

end Phase

/-- A queue before a processor, with its worker. -/
structure Queue (ε : Type) where
  processor : Processor ε
  /-- The size that was asked for. -/
  size : Nat
  /-- The jobs in the queue. -/
  entries : List Entry := []
  /-- The jobs in front of the queue. -/
  blocked : List Entry := []
  phase : Phase := .waiting
  /-- Nothing more is submitted; what has been goes through. -/
  closing : Bool := false
  /-- What submitters were told, by ticket, oldest first. -/
  told : List (Nat × Except Failure Output) := []
  nextTicket : Nat := 0
  /-- How often the submitters may still get something done before the worker must go on. -/
  credit : Nat := 128
  now : Nat := 0

namespace Queue

variable {ε : Type}

/-- The credit of submitters who have let the worker go on. -/
def fullCredit : Nat := 128

def index (q : Queue ε) : IndexName :=
  q.processor.index

/-- The greatest size that a queue can have: of the sixty-four bits of its counter three are used for
other things. -/
def greatestSize : Nat := 18446744073709551615 / 8

/-- How many jobs the queue holds, and how many a batch runs: at least one. -/
def capacity (q : Queue ε) : Nat :=
  max q.size 1

def note (q : Queue ε) (level : Log.Level) (text : String) : Queue ε :=
  { q with processor := q.processor.note level text }

def start (p : Processor ε) (size : Nat) : Queue ε :=
  let q : Queue ε := { processor := p, size := size }
  q.note .debug ("Started write worker for " ++ q.index.label
    ++ " (queue size " ++ toString q.capacity ++ ")")

def diagnostic (q : Queue ε) : String :=
  Text.record "WriteWorkOrchestrator"
    [("event_context", q.index.diagnostic), ("queued", toString q.entries.length),
      ("finished", toString q.phase.isOver)] false

/-! ## Submitters -/

/-- What a submitter is told whose job was given up by a crashed worker. -/
def dropped (index : IndexName) : Failure :=
  .operation ("Work set on " ++ index.label ++ " was dropped before completion")

def refuses (q : Queue ε) : Bool :=
  q.phase.isOver

def tell (q : Queue ε) (entries : List Entry) (answer : Except Failure Output) : Queue ε :=
  { q with told := q.told ++ entries.map (fun e => (e.ticket, answer)) }

/-- What the submitter with a ticket was told so far. -/
def answer? (q : Queue ε) (ticket : Nat) : Option (Except Failure Output) :=
  (q.told.find? (·.1 == ticket)).map (·.2)

/-- What the submitter with a ticket is told in the end: whoever is told nothing was dropped. -/
def answer (q : Queue ε) (ticket : Nat) : Except Failure Output :=
  (q.answer? ticket).getD (.error (dropped q.index))

/-- Takes one from the credit. -/
def spend (q : Queue ε) : Queue ε :=
  { q with credit := q.credit - 1 }

/-- The credit of submitters who have just let the worker go on. -/
def renew (q : Queue ε) : Queue ε :=
  { q with credit := fullCredit }

/-- The submitters in front of the queue, the first of whom tries to get in. -/
def letIn (q : Queue ε) : Queue ε :=
  match q.blocked with
  | [] => q
  | e :: rest =>
    if q.credit = 0 then q
    else if q.refuses then ({ q with blocked := rest }.tell [e] (.error (.closed q.index))).spend
    else if q.entries.length < q.capacity then
      { q with entries := q.entries ++ [e], blocked := rest }.spend
    else q

/-- Submits a job: it comes in front of the queue, and goes in if nobody else waits there and nothing keeps
it back.  Answers its ticket. -/
def offer (q : Queue ε) (job : Job) : Nat × Queue ε :=
  let e : Entry := { ticket := q.nextTicket, job := job }
  let first := q.blocked.isEmpty
  let q := { q with nextTicket := q.nextTicket + 1, blocked := q.blocked ++ [e] }
  (e.ticket, if first then q.letIn else q)

def offerAll (q : Queue ε) : List Job → List Nat × Queue ε
  | [] => ([], q)
  | job :: rest =>
    let (ticket, q) := q.offer job
    let (tickets, q) := q.offerAll rest
    (ticket :: tickets, q)

/-- The submitter with a ticket goes away.  A job that has got in stays; one in front of the queue is
gone. -/
def leave (q : Queue ε) (ticket : Nat) : Queue ε :=
  { q with
    entries := q.entries.map (Entry.deafen ticket)
    blocked := q.blocked.filter (·.ticket != ticket)
    phase := q.phase.deafen ticket }

/-- Submits a job and goes away at once; the failure if the job was refused. -/
def abandon (q : Queue ε) (job : Job) : Except Failure Unit × Queue ε :=
  let (ticket, q) := q.offer job
  match q.answer? ticket with
  | some (.error e) => (.error e, q)
  | some (.ok _) | none => (.ok (), q.leave ticket)

/-- The submitter with a ticket looks what has become of the job: it is told, if there is credit for that, or
tries to get in if it is the first in front of the queue.  Answers whether it need not come back. -/
def visit (q : Queue ε) (ticket : Nat) : Bool × Queue ε :=
  if (q.answer? ticket).isSome then (0 < q.credit, q.spend)
  else if (q.blocked.head?.map (·.ticket)) = some ticket then
    let q := q.letIn
    ((q.answer? ticket).isSome, q)
  else (false, q)

/-- Visits submitters one after the other; answers those who have to come back. -/
def round (q : Queue ε) : List Nat → List Nat × Queue ε
  | [] => ([], q)
  | ticket :: rest =>
    let (done, q) := q.visit ticket
    let (waiting, q) := q.round rest
    (if done then waiting else ticket :: waiting, q)

/-! ## The worker -/

def crash (q : Queue ε) (e : Entry) : Queue ε :=
  { q.tell (e :: q.entries) (.error (dropped q.index)) with entries := [], phase := .crashed }

variable [Engine ε]

/-- Ends a batch of `count` jobs. -/
def endBatch (q : Queue ε) (count : Nat) : Queue ε :=
  let q := q.note .trace ("Ran " ++ toString count ++ " work set(s) on " ++ q.index.label)
  let (result, p) := Processor.endBatch q.now q.processor
  let q := { q with processor := p, phase := .waiting }
  match result with
  | .ok _ => q
  | .error e => q.note .error ("Unable to end a batch: " ++ e.message)

omit [Engine ε] in
/-- Takes another job into a batch that has run `count`, if there is one and the batch may be longer. -/
def draw (q : Queue ε) (count : Nat) : Queue ε :=
  match q.entries with
  | next :: rest =>
    if count < q.capacity then { q with entries := rest, phase := .running next count }
    else { q with phase := .ending count }
  | [] => { q with phase := .ending count }

/-- Logs that the processor would not run a job. -/
def noteRejected (q : Queue ε) (result : Except Failure Unit) : Queue ε :=
  match result with
  | .ok _ => q
  | .error e => q.note .error ("Work set rejected by " ++ q.index.label ++ ": " ++ e.message)

/-- Runs one workset of a batch.  A submitter whom the processor tells nothing is told that the workset
was dropped. -/
def runWorkset (q : Queue ε) (e : Entry) (w : Workset) : Queue ε :=
  let settled := w.run q.now e.listening q.processor
  let q := { q with processor := settled.processor }.noteRejected settled.call
  q.tell [e] (settled.told.getD (.error (dropped q.index)))

/-- Runs one job of a batch, the one after `count` others.  The worker crashes inside a workset only. -/
def runEntry (q : Queue ε) (e : Entry) (count : Nat) : Queue ε :=
  match e.job with
  | .workset w => { q.runWorkset e w with phase := .drawing (count + 1) }
  | .crash =>
    match Processor.beforeWorkset {} q.processor with
    | (.ok _, _) => q.crash e
    | (refused, _) =>
      { (q.noteRejected refused).tell [e] (.error (dropped q.index)) with
        phase := .drawing (count + 1) }

/-- Opens a batch for a first job that has left the queue. -/
def beginBatch (q : Queue ε) (first : Entry) : Queue ε :=
  match Processor.beginBatch q.processor with
  | (.ok _, p) => { q with processor := p, phase := .running first 0 }
  | (.error e, p) =>
    ({ q with processor := p }.note .error ("Unable to start a batch: " ++ e.message)).tell [first]
      (.error e)

/-- The next step of the worker, if there is something to do. -/
def step? (q : Queue ε) : Option (Queue ε) :=
  match q.phase with
  | .waiting =>
    match q.entries with
    | first :: rest => some ({ q with entries := rest }.beginBatch first)
    | [] => none
  | .running next count => some (q.runEntry next count)
  | .drawing count => some (q.draw count)
  | .ending count => some (q.endBatch count)
  | .crashed | .closed => none

omit [Engine ε] in
/-- How much there is to do: a job in the queue has four steps before it, being taken, being run, the look
for another one and the end of its batch. -/
def load (q : Queue ε) : Nat :=
  let begun := match q.phase with
    | .running _ _ => 3
    | .drawing _ => 2
    | .ending _ => 1
    | .waiting | .crashed | .closed => 0
  4 * q.entries.length + begun

/-- A number of steps of the worker, as far as there is something to do. -/
def steps : Nat → Queue ε → Queue ε
  | 0, q => q
  | n + 1, q =>
    match q.step? with
    | some q => steps n q
    | none => q

/-- The worker goes on until it has nothing to do. -/
def settle (q : Queue ε) : Queue ε :=
  steps q.load q

/-- A number of rounds of the worker and the submitters who wait, as far as there are any. -/
def rounds : Nat → List Nat → Queue ε → Queue ε
  | 0, _, q => q
  | _, [], q => q
  | n + 1, waiting, q =>
    let (waiting, q) := q.settle.renew.round waiting
    rounds n waiting q

/-- The submitters with these tickets wait until all of them have been told.  Every round either lets one of
them in or tells one. -/
def await (q : Queue ε) (tickets : List Nat) : Queue ε :=
  rounds (2 * tickets.length) (tickets.filter (fun t => (q.answer? t).isNone)) q

/-- Submits jobs in order and waits until all submitters have been told. -/
def submitAll (q : Queue ε) (jobs : List Job) : List (Except Failure Output) × Queue ε :=
  let (tickets, q) := q.offerAll jobs
  let q := q.await tickets
  (tickets.map q.answer, q)

/-- Submits a job and waits until its submitter has been told. -/
def submit (q : Queue ε) (job : Job) : Except Failure Output × Queue ε :=
  let (ticket, q) := q.offer job
  let q := q.await [ticket]
  (q.answer ticket, q)

/-! ## Time and the end -/

/-- The worker stops waiting for a job and commits what is pending. -/
def expire (q : Queue ε) : Queue ε :=
  { q with processor := q.processor.commitPending q.now }

/-- Lets `ms` milliseconds go by.  The worker does what there is to do, then waits, and a commit that
gets due in that time takes place when it does.  To see that the time is over takes one from the credit. -/
def idle (q : Queue ε) (ms : Nat) : Queue ε :=
  let q := q.settle.renew.spend
  let later := q.now + ms
  match q.phase with
  | .waiting =>
    match q.processor.pendingDelay q.now with
    | some delay =>
      if delay ≤ ms then { { q with now := q.now + delay }.expire with now := later }
      else { q with now := later }
    | none => { q with now := later }
  | .running _ _ | .drawing _ | .ending _ | .crashed | .closed => { q with now := later }

/-- What a close answers after the worker has crashed. -/
def abnormal (index : IndexName) : Failure :=
  .operation ("Write worker for " ++ index.label ++ " terminated abnormally")

/-- Waits for the end of the worker.  To see it takes one from the credit; who has none, or comes before the
end, lets the worker go on first. -/
def join (q : Queue ε) : Queue ε :=
  if q.refuses && 0 < q.credit then q.spend else q.settle.renew.spend

def stop (q : Queue ε) : Queue ε :=
  { q with closing := true }.note .debug
    ("Waiting for the write worker of " ++ q.index.label ++ " to drain")

/-- The end of the worker: it closes the processor. -/
def finish (q : Queue ε) : Except Failure Unit × Queue ε :=
  let q := q.note .debug ("Write queue of " ++ q.index.label ++ " closed")
  let (result, p) := Processor.close q.now q.processor
  (result, { q with processor := p, phase := .closed })

/-- Takes no more jobs, runs those in the queue, and closes the processor. -/
def close (q : Queue ε) : Except Failure Unit × Queue ε :=
  let q := q.stop.join
  match q.phase with
  | .crashed => (.error (abnormal q.index), q)
  | .waiting | .running _ _ | .drawing _ | .ending _ | .closed => q.finish

end Queue

end WritePath
