import WritePath.Keyed

/-!
# Values and tables of the settings format

The values of a TOML document.  Texts, whole numbers, arrays and tables are kept; of the other values
only the kind is kept, because no setting has such a value.

A table comes into being in one of four ways (`Origin`), and these decide what may still be added to it.
A document is a list of statements, and each statement is carried out by one of three functions on the
table of the document: `assign` for a key with a value, `openTable` for a header, `appendTable` for the
header of one element of a list of tables.  They answer nothing when the statement would define something
twice.
-/

namespace WritePath.Toml

/-- How a table came into being. -/
inductive Origin where
  /-- By a header of its own, or as an element of a list of tables. -/
  | header
  /-- Above the table of a header. -/
  | implied
  /-- By a dotted key, or implied by a header and since then used in one. -/
  | dotted
  /-- Written as a value. -/
  | inlined
  deriving DecidableEq, Repr

inductive Value where
  | text (s : String)
  | integer (i : Int)
  /-- A number with a fraction or an exponent. -/
  | decimal
  | truth
  /-- A date, a time, or both. -/
  | moment
  | array (items : List Value)
  | table (origin : Origin) (entries : List (String × Value))
  /-- The tables of headers with double brackets, the newest one apart from the older ones. -/
  | tables (newest : List (String × Value)) (older : List Value)
  deriving Inhabited

abbrev Entries := Keyed Value

/-- Carries out `key = value` in a table of the given origin, the key being `path` followed by `name`.
The dotted part of a key goes through tables that have no header of their own, and makes them dotted: a
later header cannot claim them any more.  It may go through the newest of a list of tables but not end in
one, because that table has a header. -/
def assign (name : String) (value : Value) :
    (isDotted : Bool) → Origin → List String → Entries → Option Entries
  | isDotted, origin, [], entries =>
    if isDotted && origin != .dotted then none
    else match Keyed.get? name entries with
      | some _ => none
      | none => some (Keyed.insert name value entries)
  | _, _, key :: path, entries =>
    match Keyed.get? key entries with
    | none =>
      (assign name value true .dotted path []).map fun inner =>
        Keyed.insert key (.table .dotted inner) entries
    | some (.table .implied inner) | some (.table .dotted inner) =>
      (assign name value true .dotted path inner).map fun inner =>
        Keyed.insert key (.table .dotted inner) entries
    | some (.tables newest older) =>
      (assign name value true .header path newest).map fun inner =>
        Keyed.insert key (.tables inner older) entries
    | some _ => none

/-- Goes down the path of a header and changes the table at its end; tables that are missing on the way
are implied by it. -/
def descend (change : Origin → Entries → Option Entries) :
    Origin → List String → Entries → Option Entries
  | origin, [], entries => change origin entries
  | _, key :: path, entries =>
    match Keyed.get? key entries with
    | none =>
      (descend change .implied path []).map fun inner =>
        Keyed.insert key (.table .implied inner) entries
    | some (.table .inlined _) => none
    | some (.table origin inner) =>
      (descend change origin path inner).map fun inner =>
        Keyed.insert key (.table origin inner) entries
    | some (.tables newest older) =>
      (descend change .header path newest).map fun inner =>
        Keyed.insert key (.tables inner older) entries
    | some _ => none

/-- Carries out the header `[path.name]`. -/
def openTable (path : List String) (name : String) (entries : Entries) : Option Entries :=
  descend (fun _ entries =>
    match Keyed.get? name entries with
    | none => some (Keyed.insert name (.table .header []) entries)
    | some (.table .implied inner) => some (Keyed.insert name (.table .header inner) entries)
    | some _ => none) .header path entries

/-- Carries out the header `[[path.name]]`. -/
def appendTable (path : List String) (name : String) (entries : Entries) : Option Entries :=
  descend (fun _ entries =>
    match Keyed.get? name entries with
    | none => some (Keyed.insert name (.tables [] []) entries)
    | some (.tables newest older) =>
      some (Keyed.insert name (.tables [] (.table .header newest :: older)) entries)
    | some _ => none) .header path entries

end WritePath.Toml
