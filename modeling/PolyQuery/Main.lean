import PolyQuery.Command.Program
import Std.Time.DateTime.Timestamp

/-!
# Command line program

Runs one command line against the files, the clock and the randomness of the
system, and writes what the command answers.
-/

namespace PolyQuery.Host

/-- Why the system refused a file. -/
def reason : IO.Error → String
  | .noFileOrDirectory .. => "No such file or directory (os error 2)"
  | .permissionDenied .. => "Permission denied (os error 13)"
  | .inappropriateType .. => "Is a directory (os error 21)"
  | error => toString error

/-- Whether a path leads to anything, readable or not. -/
def pathExists
    (path : String) :
    IO Bool := do
  try
    discard (IO.FS.Handle.mk path .read)
    return true
  catch error =>
    match error with
    | .noFileOrDirectory .. => return false
    | _ => return true

/-- The text of a file. -/
def readText
    (path : String) :
    IO FileText := do
  try
    return .text (← IO.FS.readFile path)
  catch error =>
    return .failed (reason error)

/-- Write a text to a file; a reason is answered if that fails. -/
def writeText
    (path : String)
    (content : String) :
    IO (Option String) := do
  try
    IO.FS.writeFile path content
    return none
  catch error =>
    return some (reason error)

/-- The files of the system. -/
def files : FileAccess IO where
  exists? := pathExists
  read := readText
  write := writeText

/--
The directory of the user's settings: an absolute one that is
named, or one in the home.
-/
def userDirectory : IO (Option String) := do
  let named :=
    (← IO.getEnv "XDG_CONFIG_HOME").filter fun path => path.startsWith "/"
  let home := (← IO.getEnv "HOME").filter fun path => !path.isEmpty
  let base :=
    match named with
    | some path => some path
    | none => home.map fun path => Program.join path ".config"
  return base.map fun path => Program.join path "airquery"

/-- The number that bytes write, the first of them counting most. -/
def number
    (bytes : ByteArray) :
    Nat :=
  bytes.toList.foldl (fun (value : Nat) byte => 256 * value + byte.toNat) 0

/-- Generated values that begin at the present time and at random numbers. -/
def supply : IO Supply := do
  let present := (← Std.Time.Timestamp.now).val
  let seconds := present.second.val.toNat
  let objectBytes ← IO.getRandomBytes 8
  let uuidBytes ← IO.getRandomBytes 15
  return {
    objectIds := seconds * (unsignedMax + 1) + number objectBytes
    uuids := number uuidBytes
    microseconds := seconds * 1000000 + present.nano.val.toNat / 1000
    sequences := []
  }

end PolyQuery.Host

open PolyQuery in
/-- Run the program on the words of its command line. -/
def main
    (words : List String) :
    IO UInt32 := do
  let place : Place := {
    directory := (← IO.currentDir).toString
    userDirectory := ← Host.userDirectory
  }
  let exit ← Program.answer Host.files place (← Host.supply) words
  IO.print exit.output
  IO.eprint exit.errors
  return exit.code.toUInt32
