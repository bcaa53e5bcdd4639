import GuestBridge.Guest.Description
/-!
# Files

What the command line reads: texts and guest modules by path. Files stand in a tree at places, which
are lists of names from the root on. A path is walked name by name from the root or from the working
directory, and the walk goes on only from a directory.
-/

namespace GuestBridge.CommandLine

/-- A file: the text that its content spells, if it spells one, and the guest module that it holds,
if it holds one. The text of a module is spelled out only when it is asked for. -/
structure File where
  text : Thunk (Option String)
  module : Option Module

/-- A file by its path, or why it cannot be read. -/
abbrev FileView := String → Except String File

namespace File

/-- The eight bytes with which every module begins, and which alone are the empty module. -/
def preamble : String := "\x00asm\x01\x00\x00\x00"

def ofText (text : String) : File :=
  ⟨.pure (some text), if text = preamble then some .empty else none⟩

def ofDescription (d : Description) : File := ⟨.mk fun _ => d.text?, d.module?⟩

def text? : Except String File → Except String String
  | .ok file =>
    match file.text.get with
    | some text => .ok text
    | none => .error "stream did not contain valid UTF-8"
  | .error reason => .error reason

end File

/-- A place in the tree: names from the root on. -/
abbrev Place := List String

/-- Files by their places, and places that are directories whether or not a file is below them. -/
structure Files where
  entries : List (Place × File)
  directories : List Place

namespace Files

/-- The parts of a path; a trailing slash leaves an empty last part. -/
def parts (path : String) : List String := path.splitOn "/"

/-- The working directory. Its own name is nothing that a path can spell, since parts of a path have
no slashes. -/
def working : Place := ["tmp", "/"]

/-- Directories that every system has. -/
def systemDirectories : List Place := [
  ["bin"], ["boot"], ["dev"], ["dev", "fd"], ["dev", "pts"], ["dev", "shm"], ["etc"], ["home"],
  ["lib"], ["media"], ["mnt"], ["opt"], ["proc"], ["root"], ["run"], ["sbin"], ["srv"], ["sys"],
  ["tmp"], ["usr"], ["usr", "bin"], ["usr", "lib"], ["usr", "local"], ["usr", "sbin"],
  ["usr", "share"], ["var"], ["var", "cache"], ["var", "lib"], ["var", "log"], ["var", "tmp"]]

/-- Devices that every system has; both read as the empty text, as no input is given. -/
def systemFiles : List (Place × File) := [
  (["dev", "null"], .ofText ""),
  (["dev", "stdin"], .ofText "")]

/-- Files in the working directory, by their relative paths. Of two with one path, the first one is
there. -/
def ofList (entries : List (String × File)) : Files where
  entries :=
    (entries.map fun (path, file) => (working ++ (parts path).filter (· ≠ ""), file)) ++ systemFiles
  directories := working :: systemDirectories

def file? (files : Files) (place : Place) : Option File :=
  (files.entries.find? (·.1 == place)).map (·.2)

/-- The root is a directory, and so is a place below which a file lies. -/
def isDirectory (files : Files) (place : Place) : Bool :=
  place.isEmpty || files.directories.contains place ||
    files.entries.any fun e => place.isPrefixOf e.1 && place != e.1

def missing : String := "No such file or directory (os error 2)"

def notDirectory : String := "Not a directory (os error 20)"

def isADirectory : String := "Is a directory (os error 21)"

def nameTooLong : String := "File name too long (os error 36)"

def maxNameBytes : Nat := 255

def maxPathBytes : Nat := 4095

/-- Walks on from a place. A name is looked at only once the place before it has been found to be a
directory. Nothing is above the root. -/
def walk (files : Files) (place : Place) : List String → Except String File
  | [] =>
    match files.file? place with
    | some file => .ok file
    | none => if files.isDirectory place then .error isADirectory else .error missing
  | part :: rest =>
    if files.isDirectory place then
      if part = "" ∨ part = "." then walk files place rest
      else if part = ".." then walk files place.dropLast rest
      else if maxNameBytes < part.utf8ByteSize then .error nameTooLong
      else walk files (place ++ [part]) rest
    else if (files.file? place).isSome then .error notDirectory
    else .error missing

/-- The file at a path. A path that is too long is refused before it is walked. -/
def view (files : Files) : FileView := fun path =>
  if maxPathBytes < path.utf8ByteSize then .error nameTooLong
  else
    match path.toList with
    | [] => .error missing
    | '/' :: _ => files.walk [] (parts path)
    | _ => files.walk working (parts path)

end Files

/-- The directory part of a path, with its slash; empty when there is none. -/
def directory (path : String) : String :=
  String.ofList (path.toList.reverse.dropWhile (· ≠ '/')).reverse

def fileName (path : String) : String :=
  String.ofList (path.toList.reverse.takeWhile (· ≠ '/')).reverse

/-- A name relative to the directory of a path; an absolute name stands for itself. -/
def beside (path name : String) : String :=
  match name.toList with
  | '/' :: _ => name
  | _ => directory path ++ name

end GuestBridge.CommandLine
