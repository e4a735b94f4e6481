import DeviceBridge.Device.Basic

/-
  The speaker plays notes and sounds and remembers them. Volume and pitch are kept within bounds.
-/

namespace DeviceBridge

/-- The instruments of a note block. -/
def instruments : Choice where
  name := "Instrument"
  variants := ["harp", "basedrum", "snare", "hat", "bass", "flute", "bell", "guitar", "chime",
    "xylophone", "iron_xylophone", "cow_bell", "didgeridoo", "bit", "banjo", "pling"]

namespace Speaker

def maxVolume : Float := 3.0

def maxPitch : Float := 24.0

/-- The nearest number between zero and a bound; NaN stays. -/
def clamp (high x : Float) : Float := if x < 0.0 then 0.0 else if high < x then high else x

def sound (name : String) (volume pitch : Option Float) : Sound :=
  ⟨name, clamp maxVolume (volume.getD 1.0), clamp maxPitch (pitch.getD 1.0)⟩

/-- Play with the volume and pitch given as second and third parameter. -/
def play (inv : Invocation) (name : String) : Code :=
  Code.bindRead (inv.receiverDevice .speaker) fun id =>
  Code.bindRead (inv.number? 1) fun volume =>
  Code.bindRead (inv.number? 2) fun pitch =>
  Code.relay (.device id (.play name volume pitch))

def declaration : ClassDecl := ClassDecl.plain .speaker "Speaker" [
  (MethodDecl.plain ⟨10⟩ "playNote" .bool fun inv =>
    Code.bindRead (inv.constant 0) fun n =>
    play inv ("note." ++ (instruments.variants[n]?).getD "")).withParams
      [.constant instruments, .optional .number, .optional .number],
  (MethodDecl.plain ⟨11⟩ "playSound" .bool fun inv =>
    Code.bindRead (inv.string 0) fun name =>
    if name.isEmpty then .fail (.badArgument 0 "sound name cannot be empty")
    else play inv name).withParams
      [.string, .optional .number, .optional .number]]

def new : Device :=
  { Device.plain .speaker "speaker" declaration (.speaker []) with
    detach := fun id _ => Code.tell (.device id .clearSounds) }

end Speaker

end DeviceBridge
