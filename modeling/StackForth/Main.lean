import StackForth.CommandLine.Run

namespace StackForth.Shell

-- The bound on runs without a step limit, which no run reaches in a lifetime.
def bound : Nat := 1000000000000000000

def say (text : String) : IO Unit := do
  let out ← IO.getStdout
  out.putStr text
  out.flush

def complain (text : String) : IO Unit := do
  let err ← IO.getStderr
  err.putStr text

def withoutLineFeed (line : String) : String :=
  if line.toList.getLast? = some '\n' then String.ofList line.toList.dropLast else line

-- Asks for lines and answers them until the user leaves or there is no more input.
partial def converse (debug : Bool) (s : Session) : IO Unit := do
  say (Console.prompt s)
  let line ← (← IO.getStdin).getLine
  if line.isEmpty then
    say Console.farewell
  else
    let (s, reply) := Console.answer bound s (withoutLineFeed line)
    if debug then complain reply.journal.text
    say reply.text
    unless reply.leaves do converse debug s

def openError? : IO.Error → Option OpenError
  | .noFileOrDirectory ..       => some .missing
  | .inappropriateType _ code _ => some (if code = 21 then .isDirectory else .notDirectory)
  | _                           => none

def octetsOf (path : String) : IO (Except OpenError (List UInt8)) := do
  try
    return .ok (← IO.FS.readBinFile path).toList
  catch e =>
    match openError? e with
    | some e => return .error e
    | none   => throw e

def giveUp (crash : Crash) : IO UInt32 := do
  complain (crash.message ++ "\n")
  return 1

def runFile (path : String) (setup : Setup) (debug : Bool) : IO UInt32 := do
  match ← octetsOf path with
  | .error e   =>
    say (CommandLine.openProblem path e)
    return 2
  | .ok octets =>
    let (journal, result) := CommandLine.runOctets bound setup octets
    if debug then complain journal.text
    match result with
    | .ok (text, status) =>
      say text
      return status.toUInt32
    | .error crash => giveUp crash

def carryOut : CommandLine.Plan → IO UInt32
  | .help          => do say Options.helpText; return 0
  | .usage problem => do complain (Options.problemText problem); return 2
  | .check debug   => do complain (SelfCheck.consoleSuite.text debug); return 0
  | .file path setup debug => runFile path setup debug
  | .converse s debug      => do
    say Console.banner
    converse debug s
    return 0
  | .crash c => giveUp c

end StackForth.Shell

def main (arguments : List String) : IO UInt32 :=
  StackForth.Shell.carryOut (StackForth.CommandLine.plan arguments)
