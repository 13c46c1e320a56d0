import WritePath.CommandLine.Arguments
import WritePath.CommandLine.Import
import WritePath.Session

/-!
# The program

A run of the program reads its arguments and the settings file, opens the index, carries out one command
and closes the index.  The index is closed even if the command failed, and the failure of the command
counts before the failure of the close.

Everything is a function of the disk; the failures of works go to the log.
-/

namespace WritePath

namespace Command

/-- Carries out a command on an open index: what it prints, and its result. -/
def run {ε : Type} [Searchable ε] (c : Command) (d : Disk) (m : Manager ε) :
    String × Except CommandFailure Unit × Manager ε :=
  match c with
  | .index file batchSize =>
    match Import.run file batchSize d m with
    | (.error e, m) => ("", .error e, m)
    | (.ok tally, m) =>
      ("Indexed " ++ toString tally.documents ++ " document(s) from " ++ file ++ " in "
        ++ toString tally.changesets ++ " changeset(s), " ++ toString tally.failedChangesets
        ++ " failed\n", .ok (), m)
  | .purge =>
    match m.submit Workset.purge with
    | (.error e, m) => ("", .error (.workset e), m)
    | (.ok _, m) => ("Purged index '" ++ m.name ++ "'\n", .ok (), m)
  | .count =>
    let (n, m) := m.count
    (toString n ++ "\n", .ok (), m)

end Command

/-- What a run of the program leaves behind. -/
structure Run where
  exitCode : Nat
  output : String := ""
  errorOutput : String := ""
  disk : Disk
  log : List Log.Record := []

namespace Run

def usage : String :=
  "Usage: quarry [-c PATH] <index FILE [--batch-size N] | purge | count>\n"

/-- The end of a run whose arguments were not understood, or that only wanted help. -/
def ofUsage (u : Usage) (d : Disk) : Run :=
  match u with
  | .displayHelp => { exitCode := 0, output := usage, disk := d }
  | u => { exitCode := 2, errorOutput := "error: " ++ u.name ++ "\n\n" ++ usage, disk := d }

def ofComplaint (c : Complaint) (output : String) (d : Disk) (log : List Log.Record) : Run :=
  { exitCode := 1, output := output, errorOutput := c.report, disk := d, log := log }

/-- The settings of the program: those of the settings file, or the defaults without one. -/
def settings (config : Option String) (d : Disk) : Except Complaint Settings :=
  match config with
  | none => .ok {}
  | some path =>
    (Settings.load d path).mapError fun e =>
      (Complaint.ofFailure e).during ("Failed to load settings from " ++ path)

/-- Carries out a command on an index that is open, and closes it. -/
def onIndex (c : Command) (d : Disk) (m : Manager Engine.Lodged) : Run :=
  let (output, result, m) := c.run d m
  let (closed, m) := m.close
  let d := (Session.settled m).engine.disk
  let log := m.queue.processor.journal.log
  match result, closed with
  | .error e, _ => ofComplaint (.ofCommand e) output d log
  | .ok _, .error e => ofComplaint (.ofFailure e) output d log
  | .ok _, .ok _ => { exitCode := 0, output := output, disk := d, log := log }

/-- Runs the program; `surroundings` is the settings file that holds if the option is missing.  Of a panic
the exit code is known, and not the text that the runtime prints. -/
def ofArguments (surroundings : Option String) (args : List String) (d : Disk) : Run :=
  match Arguments.read surroundings args with
  | .error u => ofUsage u d
  | .ok arguments =>
    match settings arguments.config d with
    | .error c => ofComplaint c "" d []
    | .ok s =>
      match Manager.openIndex s .logging d with
      | (.done m, d, _) => onIndex arguments.command d (m.mapEngine (fun e => { e with disk := d }))
      | (.failed e, d, log) =>
        let c := (Complaint.ofFailure e).during ("Failed to open index '" ++ s.name ++ "'")
        ofComplaint c "" d log
      | (.panicked, d, log) => { exitCode := 101, disk := d, log := log }

end Run

end WritePath
