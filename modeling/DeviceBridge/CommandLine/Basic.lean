import DeviceBridge.CommandLine.Arguments
import DeviceBridge.CommandLine.Report

/-
  The command line program as a function of its arguments and of the files it reads: the text that
  it prints and the code that it ends with.
-/

namespace DeviceBridge.CommandLine

structure Output where
  code : UInt8
  text : String
  /-- What is said about a failure, apart from the text. -/
  complaint : String
deriving Repr, DecidableEq

namespace Output

def success (text : String) : Output := ⟨0, text, ""⟩

/-- A failure, and what was printed before it. -/
def failure (text complaint : String) : Output := ⟨1, text, "Error: " ++ complaint ++ "\n"⟩

/-- A panic, and what was printed before it. -/
def escape (text : String) (how : Escape) : Output := ⟨101, text, how.describe ++ "\n"⟩

end Output

def versionText : String := programName ++ " " ++ programVersion ++ "\n"

def limits : Limits := ⟨1000, 1000000⟩

/-- A session with the reference devices. -/
def demoSession : List Session.Step := [
  .attach "top" "speaker", .attach "left" "sensor", .attach "back" "chest",
  .start,
  .call "top" "playNote" [.string "bell"], .call "top" "playNote" [],
  .call "left" "scan" [], .call "left" "getNeighbours" [],
  .call "back" "size" [], .call "back" "getItemDetail" [.int 99],
  .call "bottom" "isOn" [],
  .events,
  .detach "top",
  .call "top" "playNote" [.string "bell"],
  .events,
  .stop]

/-- Run a command under a configuration. `read` gives the contents of a file, if it is there. -/
def runCommand (config : Config) (read : String → Option (List UInt8)) : Command → Output
  | .version => .success versionText
  | .demo =>
    match Session.runFresh limits (Host.new config) demoSession with
    | .error how => .escape "" how
    | .ok report =>
      let log := logText config.logLevel report.machine.host.log
      if report.fault.isSome then .failure log "Demo failed"
      else .success (log ++ resultsText report.results)
  | .session file json =>
    let (ran, h) := Session.runFile limits (Host.new config) file (read file)
    let log := logText config.logLevel h.log
    match ran with
    | .error (.setup how) => .escape log how
    | .error e => .failure log (e.message file)
    | .ok results => .success (log ++ if json then resultsJson results else resultsText results)

/-! ## Files -/

/-- The steps that lead to a file from where the program runs; empty steps and `.` count for
nothing. A path from the root, or one that ends in such a step, leads to no file. -/
def stepsToFile? (path : String) : Option (List String) :=
  let stays (step : String) : Bool := step.isEmpty || step == "."
  let steps := path.splitOn "/"
  if steps.head? == some "" || (steps.getLast?.map stays).getD true then none
  else some (steps.filter fun step => !stays step)

/-- The contents of the file that a path leads to, among named files; of two with one name the
later one. -/
def fileAt? (files : List (String × List UInt8)) (path : String) : Option (List UInt8) :=
  (stepsToFile? path).bind fun steps =>
    (files.reverse.find? fun file => stepsToFile? file.1 == some steps).map (·.2)

/-! ## Requests -/

def perform (read : String → Option (List UInt8)) : Request → Output
  | .misuse => ⟨2, "", Topic.program.usage⟩
  | .showVersion => .success versionText
  | .showHelp topic => .success topic.manual
  | .run command file verbose =>
    let loaded := match file with
      | some file => (Config.load (read file)).mapError fun _ => "Failed to load config: " ++ file
      | none => .ok Config.default
    match loaded with
    | .error complaint => .failure "" complaint
    | .ok config =>
      runCommand (if verbose then { config with logLevel := .debug } else config) read command

/-- The files that a request reads. -/
def Request.files : Request → List String
  | run (.session file _) config _ => config.toList ++ [file]
  | run _ config _ => config.toList
  | _ => []

end DeviceBridge.CommandLine
