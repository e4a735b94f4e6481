import DeviceBridge.CommandLine.Basic

/-
  The program: read the arguments and the files they name, print, and end.
-/

namespace DeviceBridge.CommandLine

/-- The contents of a file, nothing if it cannot be read. -/
def readFile? (path : String) : IO (Option (List UInt8)) := do
  try
    let contents ← IO.FS.readBinFile path
    return some contents.toList
  catch _ => return none

/-- The files that a request reads, each with its contents. -/
def readFiles (request : Request) : IO (List (String × Option (List UInt8))) :=
  request.files.mapM fun path => return (path, ← readFile? path)

end DeviceBridge.CommandLine

def main (args : List String) : IO UInt32 := do
  let request := DeviceBridge.CommandLine.read args
  let files ← DeviceBridge.CommandLine.readFiles request
  let output := DeviceBridge.CommandLine.perform
    (fun path => (files.find? fun f => f.1 == path).bind (·.2)) request
  IO.print output.text
  IO.eprint output.complaint
  return output.code.toUInt32
