import DeviceBridge.CommandLine.Manual

/-
  The arguments of the command line. Options stand in front of the command, each at most once; the
  option with a value takes it from the same argument or from the next one. What the arguments ask
  for is a `Request`, or they are misused.
-/

namespace DeviceBridge.CommandLine

inductive Command where
  /-- Run a short session with the reference devices. -/
  | demo
  | session (file : String) (json : Bool)
  | version
deriving Repr, DecidableEq

inductive Request where
  | run (command : Command) (config : Option String) (verbose : Bool)
  /-- Show the version, or what a topic is about, and do nothing else. -/
  | showVersion
  | showHelp (topic : Topic)
  | misuse
deriving Repr, DecidableEq

/-- The options read so far. -/
structure Options where
  config : Option String
  verbose : Bool
deriving Repr, DecidableEq

/-- A value has at least one character. -/
def value? (s : String) : Option String := if s.isEmpty then none else some s

/-- An argument that is taken as a value where one is expected: it does not look like an option. -/
def looksLikeValue (s : String) : Bool := s == "-" || s.toList.head? != some '-'

/-- The text behind the `=` of a long option. -/
def afterEquals? (name arg : String) : Option String :=
  let name := name.toList ++ ['=']
  if name.isPrefixOf arg.toList then some (String.ofList (arg.toList.drop name.length)) else none

/-- An argument that asks for help; letters behind the `h` do not count. -/
def asksForHelp (s : String) : Bool := s == "--help" || "-h".toList.isPrefixOf s.toList

/-! ## Commands -/

/-- The arguments of the `session` command: one file and perhaps `--json`. Behind `--` there are
only files. -/
def sessionArguments (file : Option String) (json literal : Bool) :
    List String → Request ⊕ String × Bool
  | [] =>
    match file with
    | some file => .inr (file, json)
    | none => .inl .misuse
  | arg :: rest =>
    if !literal && arg == "--" then sessionArguments file json true rest
    else if !literal && arg == "--json" then
      if json then .inl .misuse else sessionArguments file true literal rest
    else if !literal && asksForHelp arg then .inl (.showHelp .session)
    else if !literal && !looksLikeValue arg then .inl .misuse
    else match file, value? arg with
      | none, some file => sessionArguments (some file) json literal rest
      | _, _ => .inl .misuse

/-- The arguments of a command that takes none. -/
def noArguments (command : Command) (topic : Topic) (options : Options) : List String → Request
  | [] => .run command options.config options.verbose
  | arg :: rest =>
    if arg == "--" && rest.isEmpty then .run command options.config options.verbose
    else if asksForHelp arg then .showHelp topic
    else .misuse

/-- The arguments of the `help` command: a command, or none. -/
def helpArguments : List String → Request
  | [] => .showHelp .program
  | [name] =>
    match Topic.ofName? name with
    | some topic => .showHelp topic
    | none => .misuse
  | _ => .misuse

def command (options : Options) (name : String) (rest : List String) : Request :=
  match Topic.ofName? name with
  | some .demo => noArguments .demo .demo options rest
  | some .version => noArguments .version .version options rest
  | some .session =>
    match sessionArguments none false false rest with
    | .inr (file, json) => .run (.session file json) options.config options.verbose
    | .inl request => request
  | some .help => helpArguments rest
  | _ => .misuse

/-! ## Options -/

/-- Take the value of the configuration option. -/
def withConfig (options : Options) (value : String) : Option Options :=
  match options.config, value? value with
  | none, some file => some { options with config := some file }
  | _, _ => none

/-- The next argument as the value of the configuration option. -/
def configFromNext (options : Options) : List String → Option (Options × List String)
  | value :: rest =>
    if looksLikeValue value then (withConfig options value).map fun o => (o, rest) else none
  | [] => none

/-- What a cluster of one-letter options leads to. -/
inductive Cluster where
  | go (options : Options) (rest : List String)
  | stop (request : Request)

/-- The letters of one argument. A value takes up all that is left of it, behind a `=` or not. -/
def cluster (options : Options) (rest : List String) : List Char → Cluster
  | [] => .go options rest
  | 'v' :: cs =>
    if options.verbose || cs.head? == some '=' then .stop .misuse
    else cluster { options with verbose := true } rest cs
  | 'c' :: cs =>
    let taken := match cs with
      | [] => configFromNext options rest
      | '=' :: cs => (withConfig options (String.ofList cs)).map fun o => (o, rest)
      | cs => (withConfig options (String.ofList cs)).map fun o => (o, rest)
    match taken with
    | some (options, rest) => .go options rest
    | none => .stop .misuse
  | 'h' :: _ => .stop (.showHelp .program)
  | 'V' :: _ => .stop .showVersion
  | _ => .stop .misuse

/-- Read the options in front of the command, then the command. The fuel bounds the arguments. -/
def readUpTo (options : Options) : Nat → List String → Request
  | 0, _ => .misuse
  | _ + 1, [] => .misuse
  | fuel + 1, arg :: rest =>
    if arg == "--verbose" then
      if options.verbose then .misuse else readUpTo { options with verbose := true } fuel rest
    else if arg == "--config" then
      match configFromNext options rest with
      | some (options, rest) => readUpTo options fuel rest
      | none => .misuse
    else if arg == "--version" then .showVersion
    else if arg == "--help" then .showHelp .program
    else match afterEquals? "--config" arg, arg.toList with
      | some value, _ =>
        match withConfig options value with
        | some options => readUpTo options fuel rest
        | none => .misuse
      | none, '-' :: '-' :: _ => .misuse
      | none, '-' :: c :: cs =>
        match cluster options rest (c :: cs) with
        | .go options rest => readUpTo options fuel rest
        | .stop request => request
      | none, _ => command options arg rest

def read (args : List String) : Request := readUpTo ⟨none, false⟩ (args.length + 1) args

end DeviceBridge.CommandLine
