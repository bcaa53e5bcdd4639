import Std.Time.Zoned
import GuestBridge.CommandLine.Run
import GuestBridge.Guest.Description
import GuestBridge.Number.Random
/-!
# The program

Reads the files that a command looks up, runs the command on them, and prints what it wrote. A file
holds a guest when it is a JSON object whose member `guest` describes one.
-/

namespace GuestBridge.CommandLine

/-- The texts of the paths read so far, or why they could not be read. -/
abbrev Texts := List (String × Except String String)

/-- A text that describes a guest holds the described module. -/
def fileOfText (text : String) : File :=
  let description := do Description.ofJson? (← (← Json.parse? text).member? "guest")
  match description.bind (·.module?) with
  | some m => ⟨.pure (some text), some m⟩
  | none => .ofText text

/-- The files among the texts read so far. -/
def viewOf (texts : Texts) : FileView := fun path =>
  match texts.find? (·.1 == path) with
  | some (_, .ok text) => .ok (fileOfText text)
  | some (_, .error reason) => .error reason
  | none => .error Files.missing

/-- Why a file could not be read. -/
def reasonOf (e : IO.Error) : String :=
  match e with
  | .noFileOrDirectory .. => Files.missing
  | .inappropriateType _ 21 _ => Files.isADirectory
  | .inappropriateType .. => Files.notDirectory
  | .invalidArgument _ _ "name too long" => Files.nameTooLong
  | e => toString e

/-- Reads a file as text. -/
def readText (path : String) : IO (Except String String) := do
  try return .ok (← IO.FS.readFile path)
  catch e => return .error (reasonOf e)

/-- Runs the command, and runs it again with the files that it looked up and did not have. -/
partial def settle (world : FileView → World) (args : List String) (texts : Texts) :
    IO Outcome := do
  let report := run (world (viewOf texts)) args
  let wanted := report.consulted.eraseDups.filter fun path => !texts.any (·.1 == path)
  if wanted.isEmpty then return report.outcome
  else
    let read ← wanted.mapM fun path => return (path, ← readText path)
    settle world args (texts ++ read)

end GuestBridge.CommandLine

open GuestBridge CommandLine

def main (args : List String) : IO UInt32 := do
  let now ← Std.Time.PlainDateTime.now
  let date := now.year.toInt * 10000 + now.month.toInt * 100 + now.day.toInt
  let time := now.hour.toInt * 10000 + now.minute.toInt * 100 + now.second.toInt
  let seed ← IO.rand 0 0xFFFFFFFF
  let random := Random.draw (UInt64.ofNat seed)
  let world (files : FileView) : World :=
    ⟨files, Int32.ofInt date, Int32.ofInt time, random, UInt64.size⟩
  let outcome ← settle world args []
  match outcome with
  | .success output => IO.print output
  | .failure output e =>
    IO.print output
    IO.eprintln ("Error: " ++ e.message)
  | .refused => IO.eprintln "usage: run GUEST PROGRAM | inspect GUEST | config, with options"
  | .crashed => IO.eprintln "the text screen has too many cells"
  return outcome.exitCode
