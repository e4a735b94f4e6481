/-
  What the program says about its own use: for each topic a line on what it is for, how it is
  called, and tables of its commands, arguments and options. The entries of a table are aligned.
-/

namespace DeviceBridge.CommandLine

def programName : String := "periphery"

def programVersion : String := "0.3.2"

/-- What help can be about: the program or one of its commands. -/
inductive Topic where
  | program
  | demo
  | session
  | version
  | help
deriving Repr, DecidableEq

namespace Topic

/-- The commands, in the order in which they are listed. -/
def commands : List Topic := [demo, session, version, help]

def name : Topic → String
  | program => programName
  | demo => "demo"
  | session => "session"
  | version => "version"
  | help => "help"

/-- The command of a name. -/
def ofName? (name : String) : Option Topic := commands.find? fun t => t.name == name

def about : Topic → String
  | program => programName
  | demo => "Attach the reference devices and run a short session"
  | session => "Run a session file"
  | version => "Print version information"
  | help => "Print this message or the help of the given subcommand(s)"

/-- What follows the name of the program in a call. -/
def call : Topic → String
  | program => "[OPTIONS] <COMMAND>"
  | demo => "demo"
  | session => "session [OPTIONS] <FILE>"
  | version => "version"
  | help => "help [COMMAND]..."

/-- Entries under a heading, each with what it means. -/
structure Table where
  heading : String
  entries : List (String × String)

def helpOption : String × String := ("-h, --help", "Print help")

def tables : Topic → List Table
  | program => [
    ⟨"Commands", commands.map fun t => (t.name, t.about)⟩,
    ⟨"Options", [("-c, --config <FILE>", "Configuration file (RON)"),
      ("-v, --verbose", "Enable verbose output"), helpOption, ("-V, --version", "Print version")]⟩]
  | session => [
    ⟨"Arguments", [("<FILE>", "Session file to run")]⟩,
    ⟨"Options", [("    --json", "Print outcomes as JSON"), helpOption]⟩]
  | help => [⟨"Arguments", [("[COMMAND]...", "Print help for the subcommand(s)")]⟩]
  | _ => [⟨"Options", [helpOption]⟩]

def Table.render (t : Table) : String :=
  let width := (t.entries.map fun e => e.1.length).foldl max 0
  let line (e : String × String) : String :=
    "  " ++ e.1 ++ String.ofList (List.replicate (width - e.1.length + 2) ' ') ++ e.2 ++ "\n"
  "\n" ++ t.heading ++ ":\n" ++ String.join (t.entries.map line)

def usage (t : Topic) : String := "Usage: " ++ programName ++ " " ++ t.call ++ "\n"

def manual (t : Topic) : String :=
  t.about ++ "\n\n" ++ t.usage ++ String.join (t.tables.map Table.render)

end Topic

end DeviceBridge.CommandLine
