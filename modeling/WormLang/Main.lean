import WormLang.CommandLine

/-!
The program itself: reads the command line and the source file, prints the report, and ends with its status.
-/
open WormLang

/-- The text of a file; none if it cannot be read. -/
def readSource (path : String) : IO (Option String) := do
  try
    return some (← IO.FS.readFile path)
  catch _ => return none

def printReport (report : CommandLine.Report) : IO UInt32 := do
  for line in report.lines do
    IO.println line
  match report.ending with
  | .exit status complaint =>
    unless complaint.isEmpty do
      IO.eprintln complaint
    return UInt32.ofNat status
  | .fault f =>
    IO.eprintln (f.kind.name ++ ": " ++ f.text)
    return 1

def main (args : List String) : IO UInt32 := do
  match CommandLine.read args with
  | .error report => printReport report
  | .ok command => printReport (command.perform (← readSource command.source))
