import StackForth.CommandLine.Options
import StackForth.Console.Terminal
import StackForth.SelfCheck.Assembler
import StackForth.SelfCheck.Console

namespace StackForth.CommandLine

def defaultLimit : Int := 1000000

inductive Plan
  | help
  | usage (problem : String)
  | check (debug : Bool)
  | file (path : String) (setup : Setup) (debug : Bool)
  | converse (s : Session) (debug : Bool)
  | crash (c : Crash)

-- The step limit that was chosen; a count that is not positive is no limit. A void choice cannot be
-- compared with zero.
def limitOr (usual : Option Int) : LimitChoice → Except Crash (Option Int)
  | .absent  => .ok usual
  | .count n => .ok (Console.limitOf n)
  | .void    => .error .voidLimit

def planOf (o : Options) : Plan :=
  if o.test then .check o.debug
  else
    match o.file.filter (· ≠ "") with
    | some path =>
      match limitOr none o.maxSteps with
      | .ok limit => .file path { limit := limit, tracing := o.trace } o.debug
      | .error c  => .crash c
    | none      =>
      match limitOr (some defaultLimit) o.maxSteps with
      | .ok limit => .converse { limit := limit, tracing := o.trace } o.debug
      | .error c  => .crash c

def plan (arguments : List String) : Plan :=
  match Options.read arguments with
  | .help          => .help
  | .usage problem => .usage problem
  | .run o         => planOf o

def notes (debug : Bool) (journal : Journal) : Console.Shown :=
  .err (if debug then journal.text else "")

def Plan.run (bound : Nat) (v : Volume) (inputs : List Console.Input) :
    Plan → List Console.Shown × Except Crash Nat
  | .help          => ([.out Options.helpText], .ok 0)
  | .usage problem => ([.err (Options.problemText problem)], .ok 2)
  | .check debug   => ([.err (SelfCheck.consoleSuite.text debug)], .ok 0)
  | .file path setup debug =>
    match runFile bound setup v path with
    | (journal, .ok (text, status)) => ([notes debug journal, .out text], .ok status)
    | (journal, .error c)           => ([notes debug journal], .error c)
  | .converse s debug => ((Console.converse bound debug s inputs).2, .ok 0)
  | .crash c          => ([], .error c)

def run (bound : Nat) (v : Volume) (inputs : List Console.Input) (arguments : List String) :
    List Console.Shown × Except Crash Nat :=
  (plan arguments).run bound v inputs

def errorText (shown : List Console.Shown) : String :=
  String.join (shown.map fun
    | .err text => text
    | _         => "")

-- What the user sees, with texts that follow each other joined and empty ones left out.
def transcript : List Console.Shown → List Console.Shown
  | []                => []
  | .err _ :: rest    => transcript rest
  | .out text :: rest =>
    match transcript rest with
    | .out more :: rest => .out (text ++ more) :: rest
    | rest              => if text = "" then rest else .out text :: rest
  | shown :: rest     => shown :: transcript rest

end StackForth.CommandLine
