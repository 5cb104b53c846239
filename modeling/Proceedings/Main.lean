import Std.Time.DateTime.Timestamp
import Proceedings.CommandLine.Publication

/-! # The program

Gathers what a run works on, carries out the run and puts what it leaves behind into effect. There
is no network here, so a webhook is never reached.
-/

namespace Proceedings.Program

/-- What stands at a path of the file system. -/
def probe (path : String) : IO (Option Node) := do
  try
    let bytes ← IO.FS.readBinFile path
    return some (.file bytes.toList)
  catch e => match e with
    | .noFileOrDirectory .. => return none
    | _ => return some .directory

/-- The store with what stands along a path. -/
def survey (p : Path) (files : FileStore) : IO FileStore := do
  let mut files := files
  for n in List.range p.parts.length do
    let upTo : Path := ⟨p.root, p.parts.take (n + 1)⟩
    match files.locate upTo with
    | .error _ => pure ()
    | .ok place =>
      if (files.at? place).isNone then
        if let some node ← probe upTo.text.display then
          files := files.add place node
  return files

/-- The paths that an invocation names. -/
def pathsOf (i : CommandLine.Invocation) : List Path :=
  Path.ofText i.eventsFile ::
    [i.participants, i.outputDirectory].filterMap fun v => (CommandLine.pathOf v).toOption

/-- The store with everything that a command line can lead to. -/
def gather (settings : Settings) (words : List Text) : IO FileStore := do
  let here := Path.ofString (← IO.currentDir).toString
  let mut files ← survey here (.sound [] (here.parts.map FileName.ofText))
  let formats := (Formatter.all settings.fileSuffix).map (·.1)
  match CommandLine.parse .kept settings.outputDirectory formats words with
  | .ok (some i) =>
    for p in pathsOf i do
      files ← survey p files
    return files
  | _ => return files

/-- Makes a file or a directory. -/
def putInPlace (place : FilePlace) (node : Node) : IO Unit := do
  let names := place.map fun name => Text.display ((Utf8.decode name).toOption.getD [])
  let path := "/" ++ String.intercalate "/" names
  match node with
  | .directory => IO.FS.createDir path
  | .file bytes =>
    let handle ← IO.FS.Handle.mk path .writeNew
    handle.write (ByteArray.mk bytes.toArray)

/-- The names of the variables that the program knows. -/
def variableNames : List String :=
  ["TRANSCRIPT_OUTPUT_DIR", "TRANSCRIPT_FILE_SUFFIX", "TRANSCRIPT_WEBHOOK_URL",
    "TRANSCRIPT_WEBHOOK_TIMEOUT_S", "LOG_LEVEL"]

/-- The environment of the program. -/
def environment : IO Environment :=
  variableNames.filterMapM fun name => do
    return (← IO.getEnv name).map fun value => (name, value)

/-- The microseconds from the start of the year 1 to that of 1970. -/
def unixEpoch : Int := 719162 * 86400000000

/-- The stem of a new artifact's name. -/
def newStem : IO String := do
  let now ← Std.Time.Timestamp.now
  let bytes ← IO.getRandomBytes 16
  let identifier := Uuid.ofRandom (bytes.toList.foldl (fun n b => n * 256 + b.toNat) 0)
  let seconds := now.toSecondsSinceUnixEpoch.val
  match DateTime.ofInstant? (unixEpoch + seconds * 1000000) with
  | some d => return Artifact.stem d identifier.name
  | none => return identifier.name

/-- Whether a line is logged where a level is set. -/
def isLogged (level : String) (line : LogLine) : Bool :=
  let levels : List Level := [.debug, .info, .warning, .error]
  (levels.dropWhile fun l => l.name != level).contains line.level

/-- Carries out a run. -/
def execute (env : Environment) (settings : Settings) (words : List Text) : IO UInt32 := do
  let files ← gather settings words
  let run := CommandLine.run .kept env settings (← newStem) words
    ⟨files, .down "All connection attempts failed"⟩
  for (place, node) in run.surroundings.files.entries.drop files.entries.length do
    putInPlace place node
  for line in run.log do
    if isLogged settings.logLevel line then
      IO.eprintln s!"{line.level.name} {line.message.display}"
  for line in run.told do
    IO.eprintln line.display
  for line in run.printed do
    IO.println line.display
  match run.exit with
  | .ok code => return code.toUInt32
  | .error f =>
    IO.eprintln f.message.display
    return 1

end Proceedings.Program

/-- Replays a log of events and publishes the artifact. -/
def main (words : List String) : IO UInt32 := do
  let env ← Proceedings.Program.environment
  match Proceedings.Settings.ofEnvironment env with
  | .ok settings => Proceedings.Program.execute env settings (words.map Proceedings.Text.ofString)
  | .error f =>
    IO.eprintln f.message.display
    return 1
