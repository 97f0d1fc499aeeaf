import StackForth.Assembler
import StackForth.Journal
import StackForth.Machine.Load

namespace StackForth

inductive Trouble
  | parse (e : ParseError)
  | machine (f : Failure)

namespace Trouble

def kind : Trouble → Kind
  | .parse e   => e.complaint.kind
  | .machine f => f.fault.kind

def message : Trouble → String
  | .parse e   => e.message
  | .machine f => f.text

def line (t : Trouble) : String :=
  "error: " ++ t.kind.name ++ ": " ++ t.message ++ "\n"

end Trouble

-- How a run came out. A run without step limit may be given up before its end.
inductive Verdict
  | ok
  | failed (t : Trouble)
  | unfinished

-- The result of a run. The stack, top cell first, is the one at the end of the run, or in front of
-- the instruction that failed.
structure Report where
  verdict : Verdict
  stack   : List Int := []
  output  : String := ""
  steps   : Nat := 0

namespace Report

def isOk (r : Report) : Bool :=
  match r.verdict with
  | .ok => true
  | _   => false

def trouble? (r : Report) : Option Trouble :=
  match r.verdict with
  | .failed t => some t
  | _         => none

def cells (r : Report) : List Int :=
  r.stack.reverse

def ofAssemblyError (stack : List Int) : AssemblyError → Except Refusal Report
  | .parse e   => .ok { verdict := .failed (.parse e), stack := stack }
  | .refused r => .error r

def ofMachine (m : Machine) (verdict : Verdict) (stack : List Int) : Report where
  verdict := verdict
  stack   := stack
  output  := m.output
  steps   := m.state.steps

def ofRun (m : Machine) : Machine.Ending → Except Refusal Report
  | .finished   => .ok (ofMachine m .ok m.state.stack)
  | .failed f   => .ok (ofMachine m (.failed (.machine f)) f.stack)
  | .unfinished => .ok (ofMachine m .unfinished m.state.stack)
  | .unwritable => .error .unwritable

end Report

def Machine.report (bound : Nat) (m : Machine) : Journal × Except Refusal Report :=
  let (n, ending) := m.runToEnd bound
  (m.journal n ending, Report.ofRun n ending)

def runProgram (bound : Nat) (items : List Item) (entries : Entries) (setup : Setup) :
    Journal × Except Refusal Report :=
  match Machine.load items entries setup with
  | .error r => ([], .error r)
  | .ok m    => m.report bound

def Image.run (bound : Nat) (image : Image) (setup : Setup) : Journal × Except Refusal Report :=
  runProgram bound (image.program.toList.map .instruction) image.dictionary.toEntries setup

def Assembler.journal (a : Assembler) : Journal :=
  a.redefined.map .redefining

def runSource (bound : Nat) (text : String) (setup : Setup) : Journal × Except Refusal Report :=
  match Assembler.parse {} text with
  | (a, .error e)  => (a.journal, Report.ofAssemblyError [] e)
  | (a, .ok image) =>
    let (journal, outcome) := image.run bound setup
    (a.journal ++ image.journal ++ journal, outcome)

end StackForth
