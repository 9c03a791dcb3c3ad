import StateTransition.CommandLine.Program

namespace StateTransition.CommandLine

def readText (path : String) : IO (Option String) := do
  try
    return some (← IO.FS.readFile path)
  catch _ => return none

def writeText (path text : String) : IO Bool := do
  try
    IO.FS.writeFile path text
    return true
  catch _ => return false

def fileSystem : Surroundings IO where
  read := readText
  write := writeText
  clock := IO.monoMsNow

end StateTransition.CommandLine

def main (arguments : List String) : IO UInt32 := do
  let outcome ← StateTransition.CommandLine.program StateTransition.CommandLine.fileSystem arguments
  for line in outcome.output do IO.println line
  for line in outcome.errors do IO.eprintln line
  return outcome.exitCode.toUInt32
