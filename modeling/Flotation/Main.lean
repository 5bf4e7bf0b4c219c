import Flotation.Demo

/-! The command line of the demonstration. Its one argument is the path of a setup file. -/
namespace Flotation.Demo

/-- Whether a file can be opened. -/
def fileExists (path : String) : IO Bool := do
  try
    let _ ← IO.FS.Handle.mk path .read
    return true
  catch _ => return false

/-- Print a transcript and give back its exit code. No setup file is read here: if there is one,
the transcript says that it cannot be. -/
def present (path : String) : IO UInt32 := do
  let transcript :=
    if ← fileExists path then withFile .unavailable path else withoutFile path
  (← IO.getStdout).putStr transcript.standard
  (← IO.getStderr).putStr transcript.errors
  return transcript.exitCode.toUInt32

end Flotation.Demo

def main (args : List String) : IO UInt32 :=
  Flotation.Demo.present (args.headD Flotation.Demo.usualFile)
