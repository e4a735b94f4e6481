import DeviceBridge.Host.Services

/-
  How programs run. `Code.exec` runs code to its first stop, given what calls through the registry
  and registry changes do; these in turn run other code. The knot is tied by a bound on how deep
  such runs may nest (`Program.run`): beyond it a run is exhausted, which no code can catch.
-/

namespace DeviceBridge

/-- What running code leads to. -/
abbrev Runner := Program → Host → Outcome × Host

/-- What code needs in order to reach other code. -/
structure Nested where
  call : Arguments → Host → Outcome × Host
  command : Command → Host → Except Escape Unit × Host

namespace Code

def exec (nested : Nested) : Code → Host → Outcome × Host
  | .done values, h => (.done values, h)
  | .fail failure, h => (.failed failure, h)
  | .suspend yielded adjust next, h => (.pending yielded adjust (.code next), h)
  | .await id, h => (.pending awaitValues 0 (.task id), h)
  | .ask request next, h =>
    let (answer, h) := h.answer request
    exec nested (next answer) h
  | .command c next, h =>
    match nested.command c h with
    | (.ok (), h) => exec nested next h
    | (.error how, h) => (.failed (.escaped how), h)
  | .enqueue completion body next, h =>
    let (answer, h) := h.enqueue completion body
    exec nested (next answer) h
  | .call args, h => nested.call args h
  | .attempt body next, h =>
    let (outcome, h) := exec nested body h
    match outcome.toAttempt with
    | .ok seen => exec nested (next seen) h
    | .error how => (.failed (.escaped how), h)
  | .adjustWait body amount, h =>
    let (outcome, h) := exec nested body h
    (outcome.adjustWait amount, h)
  | .adjustError body amount, h =>
    let (outcome, h) := exec nested body h
    (outcome.adjustError amount, h)

end Code

namespace Program

def exec (nested : Nested) : Program → Host → Outcome × Host
  | .code body, h => body.exec nested h
  | .await id, h => (.pending awaitValues 0 (.task id), h)

end Program

/-! ## Transitions -/

/-- The two turns in the life of an installed device. -/
inductive Transition where
  | attach
  | detach
deriving Repr, DecidableEq

namespace Transition

def name : Transition → String
  | attach => "attach"
  | detach => "detach"

/-- The event that tells the scripts. -/
def event : Transition → String
  | attach => "peripheral"
  | detach => "peripheral_detach"

def hook (t : Transition) (d : Device) : DeviceId → AccessId → Code :=
  match t with
  | attach => d.attach
  | detach => d.detach

/-- The line of the log that comes before the hook. -/
def announcement (t : Transition) (a : Access) : String :=
  match t with
  | attach => "Attaching " ++ a.typeName ++ " to " ++ a.id.side.name
  | detach => "Detaching " ++ a.typeName ++ " from " ++ a.id.side.name

end Transition

namespace Host

/-! ## Hooks -/

/-- A hook may fail in any way; a panic is logged and goes no further. -/
def afterHook (t : Transition) (a : Access) (ran : Outcome × Host) : Except Escape Unit × Host :=
  match ran with
  | (.failed (.escaped (.panic payload)), h) =>
    (.ok (), h.write .error ("Peripheral " ++ a.typeName ++ " on " ++ a.id.side.name
      ++ " panicked in " ++ t.name ++ ": " ++ payload.describe))
  | (.failed (.escaped .exhausted), h) => (.error .exhausted, h)
  | (_, h) => (.ok (), h)

/-- Run the hook of the device behind an access. -/
def runHook (run : Runner) (t : Transition) (h : Host) (a : Access) : Except Escape Unit × Host :=
  match h.device? a.device with
  | none => (.ok (), h)
  | some d => afterHook t a (run (t.hook d a.device a.id) h)

/-- Close the services of an access, and take its mounts away. -/
def close (h : Host) (id : AccessId) : Host :=
  (h.unmountAll id).modifyAccess id fun a => { a with attached := false }

/-- Run the hook of a transition. The services stay open until the hook of a device that is detached
has returned. -/
def pass (run : Runner) (t : Transition) (h : Host) (a : Access) : Except Escape Unit × Host :=
  match h.runHook run t a with
  | (.ok (), h) =>
    (.ok (), match t with
      | .attach => h
      | .detach => h.close a.id)
  | failed => failed

/-- Pass through a transition, and tell the scripts. -/
def announce (run : Runner) (t : Transition) (h : Host) (a : Access) :
    Except Escape Unit × Host :=
  match (h.write .debug (t.announcement a)).pass run t a with
  | (.ok (), h) => (.ok (), h.queueEvent t.event [.string a.id.side.name])
  | failed => failed

/-- Take a step for each of some accesses in turn. -/
def forEach (step : Host → Access → Except Escape Unit × Host) (h : Host) :
    List AccessId → Except Escape Unit × Host
  | [] => (.ok (), h)
  | id :: rest =>
    match h.access? id with
    | none => forEach step h rest
    | some a =>
      match step h a with
      | (.ok (), h) => forEach step h rest
      | failed => failed

/-! ## Links -/

/-- Claim the transition to attached, which opens the services. Whether it was there to claim. -/
def link (h : Host) (id : AccessId) : Bool × Host :=
  match h.access? id with
  | none => (false, h)
  | some a =>
    if a.linked then (false, h)
    else (true, h.modifyAccess id fun a => { a with linked := true, attached := true })

/-- Claim the transition to detached. -/
def unlink (h : Host) (id : AccessId) : Bool × Host :=
  match h.access? id with
  | none => (false, h)
  | some a =>
    if a.linked then (true, h.modifyAccess id fun a => { a with linked := false }) else (false, h)

/-- The accesses of some slots for which a transition could be claimed. -/
def claim (transition : Host → AccessId → Bool × Host) (h : Host) :
    List AccessId → List AccessId × Host
  | [] => ([], h)
  | id :: rest =>
    let (claimed, h) := transition h id
    let (others, h) := claim transition h rest
    (if claimed then id :: others else others, h)

/-! ## The registry -/

/-- Make the access for a device at a side: its method table is worked out once. -/
def install (h : Host) (side : Side) (id : DeviceId) : Option AccessId × Host :=
  match h.device? id with
  | none => (none, h)
  | some d =>
    let built := h.deviceMethods.methodsOf h.sources d.declaration
    let access : AccessId := ⟨side, h.accesses.length⟩
    let h := { h.writeAll built.log with deviceMethods := built.generator }
    (some access, { h with accesses := h.accesses ++
      [⟨access, id, .device d.type id, d.kind, MethodTable.build d.dynamic built.result,
        false, false, []⟩] })

/-- Change the table: take out what is at a side, put in something else, and claim the transitions.
The accesses to detach and to attach are given back. -/
def replace (h : Host) (side : Side) (new : Option AccessId) :
    List AccessId × List AccessId × Host :=
  let (detached, h) := h.claim unlink (h.slots side).toList
  let h := h.setSlot side new
  let (attached, h) := if h.running then h.claim link new.toList else ([], h)
  (detached, attached, h)

/-- Make the access for a device, if one is given, and change the table. -/
def exchange (h : Host) (side : Side) (device : Option DeviceId) :
    List AccessId × List AccessId × Host :=
  let (new, h) := match device with
    | none => (none, h)
    | some id => h.install side id
  h.replace side new

/-- Replace what is installed at a side. What was attached there is detached first; the new device
is attached straight away if the registry is running. -/
def setDeviceAt (run : Runner) (h : Host) (side : Side) (device : Option DeviceId) :
    Except Escape Unit × Host :=
  let (detached, attached, h) := h.exchange side device
  match h.forEach (announce run .detach) detached with
  | (.ok (), h) => h.forEach (announce run .attach) attached
  | failed => failed

/-- What is installed, in slot order. -/
def occupants (h : Host) : List AccessId := Side.all.filterMap h.slots

/-- Let the registry run, and claim whatever is installed and not attached. -/
def linkAll (h : Host) : List AccessId × Host :=
  { h with running := true }.claim link h.occupants

/-- Let the registry rest, and claim whatever is attached. -/
def unlinkAll (h : Host) : List AccessId × Host :=
  { h with running := false }.claim unlink h.occupants

/-- Attach every device that is installed and not attached. -/
def startDevices (run : Runner) (h : Host) : Except Escape Unit × Host :=
  let (attached, h) := h.linkAll
  h.forEach (pass run .attach) attached

/-- Detach every device that is attached. -/
def stopDevices (run : Runner) (h : Host) : Except Escape Unit × Host :=
  let (detached, h) := h.unlinkAll
  h.forEach (pass run .detach) detached

def perform (run : Runner) (command : Command) (h : Host) : Except Escape Unit × Host :=
  match command with
  | .set side device => h.setDeviceAt run side device
  | .start => h.startDevices run
  | .stop => h.stopDevices run

/-! ## Calls -/

/-- The code behind an exported method of an installed device. -/
def methodCode (h : Host) (a : Access) (method : String) (args : Arguments) : Option Code :=
  match a.methods.find? method with
  | none => none
  | some (.generated t) => some (t.apply a.object [.context, .access a.id] args)
  | some (.dynamic index) =>
    (h.device? a.device).map fun d => d.callDynamic a.id index args

/-- Invoke an exported method of an installed device. -/
def callMethod (run : Runner) (h : Host) (a : Access) (method : String) (args : Arguments) :
    Outcome × Host :=
  match h.methodCode a method args with
  | none => (.failed (.ofCause (.noSuchMethod method)), h)
  | some code => run code h

/-- Where a call through the registry goes: an attached device, a method name and the arguments from
the third on. -/
def route (h : Host) (args : Arguments) : Except Failure (Access × String × Arguments) :=
  match args.string 0, args.string 1, args.drop 2 with
  | .error e, _, _ => .error e
  | .ok _, .error e, _ => .error e
  | .ok _, .ok _, .error e => .error e
  | .ok side, .ok method, .ok rest =>
    match h.accessAt side with
    | none => .error (.ofCause .noSuchCapability)
    | some a => if a.attached then .ok (a, method, rest) else .error (.ofCause .notAttached)

/-- Call a device by side and method name. The call itself is one frame that the script never sees,
so errors are blamed one frame further up. -/
def callDevice (run : Runner) (args : Arguments) (h : Host) : Outcome × Host :=
  match h.route args with
  | .error failure => (.failed failure, h)
  | .ok (a, method, rest) =>
    let (outcome, h) := h.callMethod run a method rest
    (outcome.adjusted 1, h)

end Host

/-! ## Tying the knot -/

namespace Nested

/-- No code can be reached. -/
def none : Nested where
  call _ h := (.failed (.escaped .exhausted), h)
  command _ h := (.error .exhausted, h)

def of (run : Runner) : Nested where
  call := Host.callDevice run
  command := Host.perform run

end Nested

namespace Program

/-- Run a program to its first stop. Calls and registry changes nest at most `depth` deep. -/
def run (depth : Nat) : Program → Host → Outcome × Host :=
  match depth with
  | 0 => exec Nested.none
  | n + 1 => exec (Nested.of (run n))

end Program

def Code.run (depth : Nat) (body : Code) (h : Host) : Outcome × Host := Program.run depth body h

end DeviceBridge
