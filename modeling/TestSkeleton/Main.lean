import Std.Time.Zoned
import TestSkeleton.CommandLine.Run

set_option autoImplicit false

/-! # The program

Takes the arguments, the clock, the environment and the files that the arguments lead to, lets
`World.run` decide what comes of them, and shows and writes it. Modules of code are not read, so a
class in one can be asked for but is not found.
-/

namespace TestSkeleton.Program

/-- The path of a place. -/
def pathOf (l : Location) : String := (FilePath.mk ['/'] l).toText.asString

/-- The place that a path leads to from a directory. -/
def placeOf (current : Location) (path : Text) : Location :=
  (FilePath.resolve current (.ofText path)).names

/-- What is at a place. -/
def readEntry (l : Location) : IO (Option Entry) := do
  let path := (← IO.currentDir) / pathOf l
  if ← path.isDir then return some .directory
  else if ← path.pathExists then return some (.file (← IO.FS.readBinFile path).toList)
  else return none

/-- Takes in what is at a place. -/
def look (fs : FileSystem) (l : Location) : IO FileSystem := do
  if (fs.entry? l).isSome then return fs
  match ← readEntry l with
  | some e => return fs.put l e
  | none => return fs

/-- Takes in what is at a place, if it is a directory, together with the files in it. -/
def lookInside (fs : FileSystem) (l : Location) : IO FileSystem := do
  let path := (← IO.currentDir) / pathOf l
  if !(← path.isDir) then return fs
  (← path.readDir).foldlM (fun fs e => look fs (l ++ [e.fileName.toList])) fs

/-- The paths that an argument may stand for: the argument itself, and what is behind an equals
sign. -/
def pathsIn (argument : Text) : List Text :=
  match Text.cut? '=' argument with
  | some (_, value) => [argument, value]
  | none => [argument]

/-- Takes in what a path leads to, by every step of the way. -/
def lookAlong (fs : FileSystem) (path : Text) : IO FileSystem := do
  let p := FilePath.ofText path
  let stops := (List.range (p.names.length + 1)).map fun n =>
    placeOf fs.current (FilePath.mk p.root (p.names.take n)).toText
  let goal := placeOf fs.current path
  let above := (List.range goal.length).map goal.take
  let tests := goal.dropLast ++ [TestFile.directoryName]
  let fs ← (above ++ stops ++ [tests]).foldlM look fs
  lookInside fs goal

/-- The moment on the clock. -/
def readClock : IO Moment := do
  let t ← Std.Time.PlainDateTime.now
  return {
    date := ⟨t.year.toInt.toNat, t.month.val.toNat, t.day.val.toNat⟩
    hour := t.hour.val.toNat
    minute := t.minute.val.toNat
    second := t.second.val.toNat }

/-- Makes the files what they are after a run. -/
def writeChanges (before after : FileSystem) : IO Unit := do
  for (l, e) in after.entries.reverse do
    if before.entry? l != some e then
      match e with
      | .directory => IO.FS.createDirAll (pathOf l)
      | .file bytes => IO.FS.writeBinFile (pathOf l) ⟨bytes.toArray⟩
      -- a run makes neither links nor further names
      | .link _ | .another _ => pure ()

/-- Runs the program on the machine. -/
def runHere (arguments : List Text) : IO UInt32 := do
  let current := placeOf [] (← IO.currentDir).toString.toList
  let templateVariable := (← IO.getEnv "DOCASSERT_TEMPLATE_DIR").map String.toList
  let paths := templateVariable.toList ++ arguments.flatMap pathsIn
  let files ← (['.'] :: paths).foldlM lookAlong { current := current }
  let r := World.run ⟨{ files := files }, templateVariable, ← readClock⟩ arguments
  writeChanges files r.files
  IO.print r.output.asString
  IO.eprint r.messages.asString
  match r.ending with
  | .exit status | .ended status => return status.toUInt32
  | .broken e =>
    IO.eprintln e.message.asString
    return 1
  | .unknown =>
    IO.eprintln "What comes of this is not known"
    return 1

end TestSkeleton.Program

/-- The program on a command line. -/
def main (arguments : List String) : IO UInt32 :=
  TestSkeleton.Program.runHere (arguments.map String.toList)
