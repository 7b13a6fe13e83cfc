import ValidatorReader.Log.Disk

/-!
# Rotating files

A log file that is about to reach its size limit is moved aside, and writing goes on in a new file. The
files moved aside are numbered from the newest to the oldest; those beyond the given number are lost.
-/

namespace ValidatorReader.Log

/-- A file that lines are written to. Its number is unknown after a rotation that did not succeed. -/
structure RotatingFile where
  path : Path
  maxBytes : Int
  backupCount : Int
  number : Option Nat
deriving DecidableEq, Repr

def backupPath (p : Path) (index : Nat) : Path :=
  p.extend s!".{index}"

namespace Disk

/-- Moves the backups of a path up by one, from the given index down to the first. -/
def shiftBackups (d : Disk) (p : Path) : Nat → Option Disk
  | 0 => some d
  | index + 1 => do
    let d ← d.shift? (backupPath p (index + 1)) (backupPath p (index + 2))
    shiftBackups d p index

/-- Moves a file aside, in front of its backups, of which as many stay as are wanted; without any the
file stays where it is. -/
def moveAside (d : Disk) (p : Path) (backupCount : Int) : Option Disk :=
  if 0 < backupCount then do
    let d ← d.shiftBackups p (backupCount.toNat - 1)
    let d ← d.clear? (backupPath p 1)
    d.shift? p (backupPath p 1)
  else some d

end Disk

namespace RotatingFile

/-- The number of the file, which is opened unless it is open. -/
def reach (f : RotatingFile) (d : Disk) : Option (Disk × Nat) :=
  match f.number with
  | some number => some (d, number)
  | none => (d.openFile f.path).toOption

/-- Whether a line would make a file reach its limit. A directory under the name of the file keeps it
from being moved. -/
def isFull (f : RotatingFile) (d : Disk) (number : Nat) (line : String) : Bool :=
  d.entry? f.path ≠ some .directory && 0 < f.maxBytes &&
    f.maxBytes ≤ (d.content number).length + line.length

def rotate (f : RotatingFile) (d : Disk) : Option (Disk × Nat) := do
  let d ← d.moveAside f.path f.backupCount
  (d.openFile f.path).toOption

/-- Writes a line, after a rotation if the line as it was tested would make the file reach its limit. A
line for which no file can be opened is lost. -/
def write (f : RotatingFile) (d : Disk) (tested written : String) : RotatingFile × Disk :=
  match f.reach d with
  | none => (f, d)
  | some (d, number) =>
    if f.isFull d number tested then
      match f.rotate d with
      | none => ({ f with number := none }, d)
      | some (d, number) => ({ f with number := some number }, d.append number written)
    else ({ f with number := some number }, d.append number written)

end RotatingFile

end ValidatorReader.Log
