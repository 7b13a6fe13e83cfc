import ValidatorReader.Log.Error
import ValidatorReader.Text.Split

/-!
# The disk of the log

The disk holds directories and files below a working directory. Files are numbered, and names lead to
numbers: a file that is open is written to under its number, also after its name was moved or taken by
another file.
-/

namespace ValidatorReader.Log

/-- The parts of a path from the working directory; parts that lead upwards stand at its front. -/
abbrev Path := List String

namespace Path

/-- The part of a path that leads upwards. -/
def up : String := ".."

/-- The first part of a path that does not begin at the working directory. -/
def top : String := "/"

/-- Goes on from a path by a part. -/
def step (p : Path) (part : String) : Path :=
  if part = up then
    match p.getLast? with
    | none => [up]
    | some last => if last = up then p ++ [up] else if last = top then p else p.dropLast
  else p ++ [part]

/-- The parts of a text between slashes; empty parts and single dots lead nowhere. -/
def partsOfText (s : String) : List String :=
  let parts := (Text.splitOn '/' s.toList).map String.ofList
  (if s.startsWith "/" then [top] else []) ++ parts.filter fun part => part ≠ "" ∧ part ≠ "."

def ofParts (parts : List String) : Path :=
  parts.foldl step []

def ofText (s : String) : Path :=
  ofParts (partsOfText s)

def textOfParts : List String → String
  | [] => "."
  | part :: parts =>
    if part = top then top ++ "/".intercalate parts else "/".intercalate (part :: parts)

/-- A path with something behind its last part. -/
def extend (p : Path) (ending : String) : Path :=
  match p.getLast? with
  | none => [ending]
  | some last => p.dropLast ++ [last ++ ending]

/-- Whether a path leads out of the working directory. -/
def isOutside (p : Path) : Bool :=
  p.head? = some up || p.head? = some top

end Path

inductive DiskEntry
  | directory
  | file (number : Nat)
deriving DecidableEq, Repr

/-- The names on the disk and the contents of its files by number. -/
structure Disk where
  entries : List (Path × DiskEntry) := []
  contents : List String := []
deriving DecidableEq, Repr

namespace Disk

/-- What is found under a path; the working directory and those above it are always there. -/
def entry? (d : Disk) (p : Path) : Option DiskEntry :=
  if p.all (· = Path.up) || p = [Path.top] then some .directory else d.entries.lookup p

def content (d : Disk) (number : Nat) : String :=
  (d.contents[number]?).getD ""

def append (d : Disk) (number : Nat) (text : String) : Disk :=
  { d with contents := d.contents.modify number (· ++ text) }

@[simp] theorem entries_append (d : Disk) (number : Nat) (text : String) :
    (d.append number text).entries = d.entries := rfl

theorem content_append_self {d : Disk} {number : Nat} (h : number < d.contents.length) (text : String) :
    (d.append number text).content number = d.content number ++ text := by
  simp [append, content, h]

theorem content_append_of_ne (d : Disk) {number other : Nat} (h : number ≠ other) (text : String) :
    (d.append number text).content other = d.content other := by
  simp [append, content, h]

/-- The files below the working directory under their paths. -/
def files (d : Disk) : List (String × String) :=
  d.entries.filterMap fun
    | (p, .file number) => if p.isOutside then none else some (Path.textOfParts p, d.content number)
    | (_, .directory) => none

inductive Obstacle
  | missing
  | notDirectory
deriving DecidableEq, Repr

/-- Follows parts from a directory, each of which has to lead to a directory. -/
def follow (d : Disk) : Path → List String → Except Obstacle Path
  | p, [] => .ok p
  | p, part :: parts =>
    match d.entry? (p.step part) with
    | some .directory => follow d (p.step part) parts
    | some (.file _) => .error .notDirectory
    | none => .error .missing

def obstacleError (shown : String) : Obstacle → DiskError
  | .missing => .noSuchFile shown
  | .notDirectory => .notADirectory shown

/-- Makes a directory unless it is there; the way to it has to be there. -/
def makeDirectory (d : Disk) (above : List String) (name : String) : Except DiskError Disk :=
  let shown := Path.textOfParts (above ++ [name])
  match d.follow [] above with
  | .error obstacle => .error (obstacleError shown obstacle)
  | .ok p =>
    match d.entry? (p.step name) with
    | some .directory => .ok d
    | some (.file _) => .error (.fileExists shown)
    | none => .ok { d with entries := (p.step name, .directory) :: d.entries }

/-- Makes a directory, given by its parts from the last one on, and what is missing on the way to it.
Directories that were made stay, also if a later one fails. -/
def makeDirectories (d : Disk) : List String → Disk × Except DiskError Unit
  | [] => (d, .ok ())
  | name :: above =>
    match d.makeDirectory above.reverse name with
    | .ok made => (made, .ok ())
    | .error (.noSuchFile _) =>
      let (d, outcome) := makeDirectories d above
      match outcome with
      | .error e => (d, .error e)
      | .ok () =>
        match d.makeDirectory above.reverse name with
        | .ok made => (made, .ok ())
        | .error e => (d, .error e)
    | .error e => (d, .error e)

/-- Opens a file to write at its end: its number, and the disk on which it is there. -/
def openFile (d : Disk) (p : Path) : Except DiskError (Disk × Nat) :=
  let shown := Path.textOfParts p
  match d.follow [] p.dropLast with
  | .error obstacle => .error (obstacleError shown obstacle)
  | .ok _ =>
    match d.entry? p with
    | some .directory => .error (.isADirectory shown)
    | some (.file number) => .ok (d, number)
    | none =>
      .ok ({ entries := (p, .file d.contents.length) :: d.entries, contents := d.contents ++ [""] },
        d.contents.length)

def discard (d : Disk) (p : Path) : Disk :=
  { d with entries := d.entries.filter (·.1 ≠ p) }

/-- Moves what is under a path to another path, with everything below it. -/
def rename (d : Disk) (source target : Path) : Disk :=
  { d with
    entries := d.entries.map fun (p, e) =>
      if source.isPrefixOf p then (target ++ p.drop source.length, e) else (p, e) }

/-- Frees a path from a file; a directory stays in the way. -/
def clear? (d : Disk) (p : Path) : Option Disk :=
  if d.entry? p = some .directory then none else some (d.discard p)

/-- Moves what is under a path, if anything is, to a path that is freed from a file. -/
def shift? (d : Disk) (source target : Path) : Option Disk :=
  match d.entry? source with
  | none => some d
  | some _ => (d.clear? target).map fun d => d.rename source target

end Disk

end ValidatorReader.Log
