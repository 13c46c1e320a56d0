import WritePath.Disk.Description
import WritePath.Failure

/-!
# The disk

What the write path sees of a file system: a tree of files and directories.  The tree is kept as a list of
its nodes by place, a place being the shortest path to a node.

A path is a text with strokes between names.  `locate` walks along it as a file system does: every name
but the last must be a directory, one point stays in place and two go up.  It says what the system says
when the way is cut off.

A file may be locked.  Whoever locks it has a number of its own, so that a new file in its place is not taken for
the one that was locked.
-/

namespace WritePath

inductive FileContent where
  | text (s : String)
  /-- Bytes that are no text; `shown` is the text in which every byte above ASCII is replaced. -/
  | raw (shown : String)
  /-- The description of an index that the library wrote itself. -/
  | description (d : Description)
  /-- Something that the engine of an index keeps for itself. -/
  | internal
  deriving DecidableEq

namespace FileContent

def ofBytes (bytes : ByteArray) : FileContent :=
  match String.fromUTF8? bytes with
  | some s => .text s
  | none =>
    .raw (String.ofList (bytes.toList.map (fun b => if b < 0x80 then Char.ofNat b.toNat else '\ufffd')))

/-- The content as a text, even if it is none. -/
def shown : FileContent → String
  | .text s => s
  | .raw s => s
  | .description d => d.text
  | .internal => ""

def text? : FileContent → Option String
  | .text s => some s
  | .raw _ | .internal => none
  | .description d => some d.text

end FileContent

inductive Node where
  /-- `holder` is the number of the one who has locked the file. -/
  | file (content : FileContent) (holder : Option Nat)
  | directory
  deriving DecidableEq

/-- The shortest path to a node: names with strokes between them.  The directory of the program is the empty
path, and those above it are pairs of points; the places below the top of absolute paths begin with a stroke. -/
abbrev Place := String

/-- A tree of files and directories: the nodes below the tops by their places. -/
structure Disk where
  nodes : List (Place × Node) := []
  /-- The next number that has not been given. -/
  next : Nat := 1
  deriving DecidableEq, Inhabited

namespace Disk

def absoluteTop : Place := "/"

def upName : String := ".."

/-- The directories above that of the program, and itself. -/
def isAbove (place : Place) : Bool :=
  place == "" || (place.splitOn "/").all (· == upName)

/-- The tops: the directory of the program, those above it, and the one of absolute paths.  They always exist,
and what else is in them is not known. -/
def isTop (place : Place) : Bool :=
  isAbove place || place == absoluteTop

def node? (d : Disk) (place : Place) : Option Node :=
  match d.nodes.lookup place with
  | some node => some node
  | none => if isTop place then some .directory else none

def isDirectory (d : Disk) (place : Place) : Bool :=
  d.node? place == some .directory

def isFile (d : Disk) (place : Place) : Bool :=
  match d.node? place with
  | some (.file _ _) => true
  | some .directory | none => false

def put (d : Disk) (place : Place) (node : Node) : Disk :=
  { d with nodes := (place, node) :: d.nodes.filter (·.1 != place) }

/-- Puts a file at a place, instead of what is there; nobody has locked it. -/
def write (d : Disk) (place : Place) (content : FileContent) : Disk :=
  d.put place (.file content none)

/-- Removes what is at a place, but nothing below it. -/
def erase (d : Disk) (place : Place) : Disk :=
  { d with nodes := d.nodes.filter (·.1 != place) }

/-- Gives a number that nobody has. -/
def number (d : Disk) : Nat × Disk :=
  (d.next, { d with next := d.next + 1 })

/-! ## Paths -/

/-- How many bytes a name may have. -/
def longestName : Nat := 255

/-- How many bytes a path may have. -/
def longestPath : Nat := 4095

/-- Where a path begins, and its names.  Strokes in a row, or one at the end, give empty names. -/
def names (path : String) : Place × List String :=
  (if path.startsWith "/" then absoluteTop else "", path.splitOn "/")

/-- The path of a name in the directory of a path.  A stroke that is there already is not doubled. -/
def below (path name : String) : String :=
  if path == "" || path.back == '/' then path ++ name else path ++ "/" ++ name

def parent (place : Place) : Place :=
  match place.toList.reverse.dropWhile (· != '/') with
  | [] => ""
  | ['/'] => absoluteTop
  | _ :: above => String.ofList above.reverse

/-- How many names of a place lead up. -/
def rise (place : Place) : Nat :=
  ((place.splitOn "/").takeWhile (· == upName)).length

/-- A place is another one, or below it. -/
def isWithin (above place : Place) : Bool :=
  if isAbove above then !place.startsWith absoluteTop && rise place ≤ rise above
  else place == above || place.startsWith (below above "")

/-- The name stays in place. -/
def isIdle (name : String) : Bool :=
  name == "" || name == "."

/-- One step along a path from a directory. -/
def move (place : Place) (name : String) : Place :=
  if isIdle name then place
  else if name == upName then
    if place == absoluteTop then place else if isAbove place then below place upName else parent place
  else below place name

def walk (d : Disk) : Place → List String → Except SystemError Place
  | place, [] =>
    match d.node? place with
    | some _ => .ok place
    | none => .error .notFound
  | place, name :: rest =>
    match d.node? place with
    | some .directory =>
      if name.utf8ByteSize ≤ longestName then walk d (move place name) rest
      else .error .nameTooLong
    | some (.file _ _) => .error .notDirectory
    | none => .error .notFound

/-- Walks along names to a directory: a stroke at the end leads into what is there. -/
def enter (d : Disk) (top : Place) (names : List String) : Except SystemError Place :=
  d.walk top (names ++ [""])

/-- What makes a path useless whatever is on the disk. -/
def objection? (path : String) : Option SystemError :=
  if path.contains '\x00' then some .zeroByte
  else if path = "" then some .notFound
  else if path.utf8ByteSize ≤ longestPath then none
  else some .nameTooLong

def locate (d : Disk) (path : String) : Except SystemError Place :=
  match objection? path with
  | some e => .error e
  | none =>
    let (top, rest) := names path
    d.walk top rest

def holds (d : Disk) (path : String) : Bool :=
  (d.locate path).isOk

def readText (d : Disk) (path : String) : Except SystemError String :=
  match d.locate path with
  | .error e => .error e
  | .ok place =>
    match d.node? place with
    | some (.file content _) => match content.text? with
      | some s => .ok s
      | none => .error .notText
    | some .directory => .error .isDirectory
    | none => .error .notFound

/-! ## Making and removing -/

/-- Makes one directory, the one that names lead to from a place; answers its place.  Strokes at the end do
not count, but a name that leads back to a directory, such as a point, cannot be the name of a new one. -/
def makeDirectory (d : Disk) (start : Place) (names : List String) : Except SystemError (Place × Disk) :=
  match names.reverse.dropWhile (· == "") with
  | [] => .error .alreadyExists
  | name :: above =>
    match d.enter start above.reverse with
    | .error e => .error e
    | .ok place =>
      if name == "." || name == upName then .error .alreadyExists
      else if longestName < name.utf8ByteSize then .error .nameTooLong
      else match d.node? (below place name) with
        | some _ => .error .alreadyExists
        | none => .ok (below place name, d.put (below place name) .directory)

/-- Makes one directory unless it is there; answers its place. -/
def ensureDirectory (d : Disk) (start : Place) (names : List String) : Except SystemError (Place × Disk) :=
  match d.makeDirectory start names with
  | .ok made => .ok made
  | .error e =>
    match d.enter start names with
    | .ok place => .ok (place, d)
    | .error _ => .error e

/-- The ways to a directory and to those above it, from below: the names of the path as they are, and then
shorter and shorter beginnings without the names that stay in place. -/
def stations (names : List String) : List (List String) :=
  let plain := names.filter (fun name => !isIdle name)
  names :: (List.range (plain.length - 1)).reverse.map (fun n => plain.take (n + 1))

/-- Makes the first of some directories, and answers its place.  If there is nothing it could lie in, the
others are made before it, and stay even if it cannot be made then.  Names that go on from the next of the
directories are followed from its place. -/
def makeFirst (d : Disk) (top : Place) : List (List String) → Except SystemError Place × Disk
  | [] => (.ok top, d)
  | names :: above =>
    match d.ensureDirectory top names with
    | .ok (place, d) => (.ok place, d)
    | .error .notFound =>
      match makeFirst d top above with
      | (.error e, d) => (.error e, d)
      | (.ok place, d) =>
        let made := match (above.headD []).isPrefixOf? names with
          | some rest => d.ensureDirectory place rest
          | none => d.ensureDirectory top names
        match made with
        | .ok (place, d) => (.ok place, d)
        | .error e => (.error e, d)
    | .error e => (.error e, d)

/-- Makes the directory of a path and those above it.  For the empty path there is nothing to do. -/
def makeDirectories (d : Disk) (path : String) : Except SystemError Unit × Disk :=
  if path = "" then (.ok (), d)
  else match objection? path with
    | some e => (.error e, d)
    | none =>
      let (top, rest) := names path
      let (made, d) := d.makeFirst top (stations rest)
      (made.map (fun _ => ()), d)

/-- Puts a file at a path, in directories that are made where needed; nothing happens if they cannot be
made. -/
def putFile (d : Disk) (path : String) (content : FileContent) : Disk :=
  let (top, rest) := names path
  let d := (d.makeFirst top (stations rest.dropLast)).2
  match d.enter top rest.dropLast with
  | .ok place => d.write (move place (rest.getLast?.getD "")) content
  | .error _ => d

/-- Removes what is below a place. -/
def clear (d : Disk) (place : Place) : Disk :=
  { d with nodes := d.nodes.filter (fun n => n.1 == place || !isWithin place n.1) }

/-- Removes the directory at a path with all that is below it.  A path that ends in a point does not name the
directory it leads to, nor does one that ends in two, unless what is below it was on the way: then only what is
below it goes. -/
def removeDirectory (d : Disk) (path : String) : Except SystemError Unit × Disk :=
  match d.locate path with
  | .error e => (.error e, d)
  | .ok place =>
    if d.isDirectory place then
      let d := d.clear place
      match (names path).2.reverse.dropWhile (· == "") with
      | "." :: _ => (.error .invalid, d)
      | ".." :: _ => (if d.holds path then .error .notEmpty else .ok (), d)
      | _ => (.ok (), d.erase place)
    else (.error .notDirectory, d)

/-- Removes the file that a name leads to from a directory; the name may have strokes in it, and may be an
absolute path.  Answers whether there is no such file any more. -/
def removeFile (d : Disk) (place : Place) (name : String) : Bool × Disk :=
  match objection? name with
  | some _ => (false, d)
  | none =>
    let (top, rest) := names name
    match d.walk (if top == absoluteTop then top else place) rest with
    | .error e => (e == .notFound, d)
    | .ok found => if d.isDirectory found then (false, d) else (true, d.erase found)

/-! ## Locks -/

/-- Puts an empty file at a place unless there is a file; a directory is in the way. -/
def ensureFile (d : Disk) (place : Place) : Option Disk :=
  match d.node? place with
  | some (.file _ _) => some d
  | some .directory => none
  | none => some (d.write place (.text ""))

def isLocked (d : Disk) (place : Place) : Bool :=
  match d.node? place with
  | some (.file _ (some _)) => true
  | _ => false

def lock (d : Disk) (place : Place) (holder : Nat) : Disk :=
  match d.node? place with
  | some (.file content _) => d.put place (.file content (some holder))
  | _ => d

/-- Unlocks the file at a place if it is the one that someone has locked. -/
def unlock (d : Disk) (place : Place) (holder : Nat) : Disk :=
  match d.node? place with
  | some (.file content (some h)) => if h = holder then d.write place content else d
  | _ => d

/-! ## What is put stays -/

theorem node?_put_self (d : Disk) (place : Place) (node : Node) :
    (d.put place node).node? place = some node := by
  simp [put, node?]

theorem node?_put_of_ne (d : Disk) {place other : Place} (node : Node) (h : other ≠ place) :
    (d.put place node).node? other = d.node? other := by
  have h : (other == place) = false := beq_eq_false_iff_ne.mpr h
  have kept : ∀ nodes : List (Place × Node),
      (nodes.filter (·.1 != place)).lookup other = nodes.lookup other := by
    intro nodes
    induction nodes with
    | nil => rfl
    | cons n rest ih =>
      obtain ⟨stop, content⟩ := n
      by_cases hp : stop = place
      · simp [List.lookup_cons, hp, h, ih]
      · simp [List.lookup_cons, hp, ih]
  simp [put, node?, List.lookup_cons, h, kept]

end Disk

end WritePath
