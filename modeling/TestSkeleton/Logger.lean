import TestSkeleton.TestFile

set_option autoImplicit false

/-! # Logging

The logger of the program writes records to the console and, if asked to, to a file. It is set up
with a level and the path of the file; a second setup with the same settings does nothing. A setup
may fail when its file cannot be opened, and then leaves the logger with the console alone.
-/

namespace TestSkeleton

open Text

/-- Where records of at least a level are written to. -/
inductive LogHandler where
  | console (level : Int)
  | file (level : Int) (path : FilePath)
deriving DecidableEq, Repr

/-- The least level of the records that a handler writes. -/
def LogHandler.level : LogHandler → Int
  | console l => l
  | file l _ => l

/-- A level and a path of a file, as they are asked for. -/
structure LogSettings where
  level : Int
  file : Option Text := none
deriving DecidableEq, Repr

/-- The state of the logger. -/
structure Logger where
  /-- The least level of the records that it takes; at zero the usual level applies. -/
  level : Int := 0
  /-- Whether records go to the usual console too. -/
  propagate : Bool := true
  handlers : List LogHandler := []
  /-- The settings of the last setup that succeeded. -/
  settings : Option LogSettings := none
deriving DecidableEq, Repr

/-- A record of an event. -/
structure LogRecord where
  /-- The name of the part of the program that speaks. -/
  source : Text
  level : Int
  message : Text
deriving DecidableEq, Repr

/-- The name of a level. -/
def levelName (level : Int) : Text :=
  match [((10 : Int), ("DEBUG" : Text)), (20, "INFO"), (30, "WARNING"), (40, "ERROR"),
    (50, "CRITICAL")].lookup level with
  | some name => name
  | none => "Level " ++ ofInt level

namespace Logger

/-- The logger before any setup. -/
def initial : Logger := {}

/-- The level for warnings, from which records are taken where no level is set. -/
def warning : Int := 30

/-- The level for details. -/
def debug : Int := 10

/-- Opens a file to write behind its content. -/
def openFile (path : FilePath) (fs : FileSystem) : Except FileSystem.Failure FileSystem :=
  let text := path.toText
  match fs.read text with
  | .ok _ => .ok fs
  | .error .notFound => (fs.write text []).mapError (⟨·, text⟩)
  | .error f => .error ⟨f, text⟩

/-- Sets the logger up, unless it has these settings. The logger and the files change even if this
fails. -/
def setup (s : LogSettings) (log : Logger) (fs : FileSystem) :
    Except FileSystem.Failure Unit × Logger × FileSystem :=
  if log.settings == some s then (.ok (), log, fs)
  else
    let log : Logger :=
      { log with level := s.level, propagate := false, handlers := [.console s.level] }
    match s.file with
    | none => (.ok (), { log with settings := some s }, fs)
    | some file =>
      let path := FilePath.ofText file
      match fs.makeDirectories path.parent path.names.length with
      | (.error f, fs) => (.error f, log, fs)
      | (.ok (), fs) =>
        let path := path.resolve fs.current
        match openFile path fs with
        | .error f => (.error f, log, fs)
        | .ok fs =>
          let handlers := log.handlers ++ [.file s.level path]
          (.ok (), { log with handlers := handlers, settings := some s }, fs)

/-- The least level of the records that are taken. -/
def threshold (log : Logger) : Int := if log.level == 0 then warning else log.level

/-- A line of a log file. -/
def fileLine (time : Text) (r : LogRecord) : Text :=
  joinWith " | " [time, levelName r.level, r.source, r.message] ++ ['\n']

/-- A line on the console. -/
def consoleLine (r : LogRecord) : Text := r.message ++ ['\n']

/-- Adds a text to a file. -/
def append (path : FilePath) (text : Text) (fs : FileSystem) : FileSystem :=
  match fs.read path.toText with
  | .ok bytes => (fs.write path.toText (bytes ++ Text.encode text)).toOption.getD fs
  | .error _ => fs

/-- Writes a record to a handler: what the console shows, and the files afterwards. -/
def LogHandler.write (time : Text) (r : LogRecord) (fs : FileSystem) (h : LogHandler) :
    Text × FileSystem :=
  if r.level < h.level then ([], fs)
  else
    match h with
    | .console _ => (consoleLine r, fs)
    | .file _ path => ([], append path (fileLine time r) fs)

/-- Whether the part of the program that speaks in a record belongs to the logger named `name`. -/
def speaksFor (name : Text) (r : LogRecord) : Bool :=
  r.source == name || startsWith (name ++ ['.']) r.source

/-- Takes a record at a time: what the console shows, and the files afterwards. Records without a
handler go to the usual console if they are warnings at least. -/
def emit (time : Text) (log : Logger) (r : LogRecord) (fs : FileSystem) : Text × FileSystem :=
  if r.level ≤ 0 || r.level < log.threshold then ([], fs)
  else if log.handlers.isEmpty then
    (if log.propagate && warning ≤ r.level then consoleLine r else [], fs)
  else
    log.handlers.foldl
      (fun (shown, fs) h =>
        let (more, fs) := LogHandler.write time r fs h
        (shown ++ more, fs))
      ([], fs)

end Logger

end TestSkeleton
