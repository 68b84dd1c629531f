import RecordFilter.CommandLine

/-!
# The program

Reads the standard input if the command line needs it, runs the command, prints what it comes to
and exits.
-/

open RecordFilter.CommandLine

def usageText : String :=
  "Usage: sieve [-v] <check|group|stringify|docs|doc> [options] [argument]\n"

/-- The piped standard input, if the command line needs it and something is piped. -/
def pipedInput (invocation : Invocation) : IO (Option String) := do
  if !invocation.readsInput then return none
  let stdin ← IO.getStdin
  if ← stdin.isTty then return none
  return some (← stdin.readToEnd)

def main (arguments : List String) : IO UInt32 := do
  let invocation := Invocation.ofArguments arguments
  let outcome := invocation.run (← pipedInput invocation)
  match outcome with
  | .printed text => IO.print text
  | .failed failure => IO.eprintln failure.message
  | .helped => IO.print usageText
  | .misused => IO.eprint usageText
  return outcome.exitCode.toUInt32
