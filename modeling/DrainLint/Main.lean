import DrainLint.Command.Run
import Std.Time.Zoned

/-! # The program

The outer layer of the program: it takes a picture of the files that a run can see, lets the run
happen, and writes what the run leaves.
-/

namespace DrainLint.Main

open Command

/-! ## Files -/

/-- A file on the disk with its bytes, if it may be read. -/
def fileAt (path : String) : IO FileTree := do
  try
    let bytes ← IO.FS.readBinFile path
    return .file (bytes.toList.map UInt8.toNat)
  catch _ => return .locked

/-- What is at a path on the disk.  In a directory only source files are read, and no link to
another directory is followed. -/
partial def treeAt (path : String) : IO FileTree := do
  let real ← IO.FS.realPath path
  if ← real.isDir then
    let entries ← (← real.readDir).toList.mapM fun entry => do
      let target ← IO.FS.realPath entry.path
      let linked := target != real / entry.fileName
      let read := if ← target.isDir then !linked else entry.fileName.endsWith ".rs"
      let node ← if read then treeAt entry.path.toString else pure (.file [])
      return (entry.fileName, node)
    return .directory entries
  else fileAt path

def exists? (path : String) : IO Bool := do
  try
    let _ ← IO.FS.realPath path
    return true
  catch _ => return false

/-- What is at a path on the disk, without what is in a directory. -/
def nodeAt (path : String) : IO FileTree := do
  let real ← IO.FS.realPath path
  if ← real.isDir then return .directory [] else treeAt path

/-- The picture of the disk with what is on the way to a name, and with all that is there where a
name is read. -/
def look (read : Bool) (system : FileSystem) (name : FileName) : IO FileSystem := do
  let mut system := system
  for count in List.range name.parts.length do
    let step : FileName := { name with parts := name.parts.take (count + 1) }
    match system.place step, system.target step with
    | .error _, .ok names =>
      if ← exists? step.text then
        system := { system with tree := .insert (← nodeAt step.text) names system.tree }
    | _, _ => pure ()
  match system.place name with
  | .ok place =>
    if read then
      return { system with tree := .insert (← treeAt name.text) place.names.reverse system.tree }
    else return system
  | .error _ => return system

def picture (env : Keyed String) (request : Request) : IO FileSystem := do
  let current := FileName.ofText (← IO.FS.realPath ".").toString
  let empty : FileSystem := ⟨.insert (.directory []) current.parts (.directory []), current.parts⟩
  let system ← (inputNames request).foldlM (look true) empty
  match request with
  | .act given _ => match settings ⟨system, env, [], false, ""⟩ given with
    | .ok config => (config.sarifPath?.map FileName.ofText).toList.foldlM (look false) system
    | .error _ => return system
  | .display _ => return system

/-! ## Environment -/

def variableNames : List String :=
  ["POPLINT_FORMAT", "POPLINT_COLOUR", "NO_COLOR", "POPLINT_SARIF", "POPLINT_LOG_LEVEL",
    "POPLINT_SUPPRESS"]

def environment : IO (Keyed String) :=
  variableNames.filterMapM fun name => return (← IO.getEnv name).map fun value => (name, value)

def twoDigits (value : Int) : String := if value < 10 then s!"0{value}" else s!"{value}"

def timeOfDay : IO String := do
  let time ← Std.Time.PlainTime.now
  return ":".intercalate
    [twoDigits time.hour.val, twoDigits time.minute.val, twoDigits time.second.val]

partial def readAll (input : IO.FS.Stream) (seen : ByteArray) : IO ByteArray := do
  let more ← input.read 65536
  if more.isEmpty then return seen else readAll input (seen ++ more)

/-- The text of the standard input, if a request reads it. -/
def stdinText (request : Request) : IO (List Char) := do
  let asks := match request with
    | .act _ (.check paths) => paths.contains "-"
    | .act _ (.dumpHir input) => input == "-"
    | _ => false
  if asks then
    let bytes ← readAll (← IO.getStdin) .empty
    match SourceFile.ofBytes stdinName (bytes.toList.map UInt8.toNat) with
    | .ok source => return source.text
    | .error fault => throw (IO.userError fault.message)
  else return []

/-! ## Runs -/

def worldOf (request : Request) : IO World := do
  let env ← environment
  return { system := ← picture env request, env, stdin := ← stdinText request
           terminal := ← (← IO.getStdout).isTty, time := ← timeOfDay }

/-- Writes what a run leaves, and gives its exit code. -/
def leave (outcome : Outcome) : IO UInt32 := do
  (← IO.getStdout).putStr outcome.stdout
  (← IO.getStderr).putStr outcome.stderr
  if let some (name, text) := outcome.written? then IO.FS.writeFile name.text text
  return outcome.code.toUInt32

end DrainLint.Main

open DrainLint DrainLint.Main in
def main (args : List String) : IO UInt32 := do
  let request := (Command.Request.ofArgs args).toOption.getD (.display "")
  match Command.run (← worldOf request) args with
  | .ok outcome => leave outcome
  | .error fault => throw (IO.userError fault.message)
