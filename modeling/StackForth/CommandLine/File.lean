import StackForth.CommandLine.Volume
import StackForth.Report

namespace StackForth

inductive Crash
  | malformed (m : Text.Utf8.Malformed)
  | nullInPath
  | voidLimit
  | refused (r : Refusal)

def Crash.message : Crash → String
  | .malformed m => m.message
  | .nullInPath  => "embedded null byte"
  | .voidLimit   => "'>' not supported between instances of 'list' and 'int'"
  | .refused r   => r.message

namespace CommandLine

def fileResult (r : Report) : String × Nat :=
  match r.verdict with
  | .ok         => (r.output ++ "Final stack: " ++ Text.bracketed r.cells ++ "\n", 0)
  | .failed t   => (r.output ++ t.line, 1)
  | .unfinished => (r.output, 1)

def openProblem (path : String) (e : OpenError) : String :=
  "cannot open " ++ Text.quote path ++ ": " ++ e.message path ++ "\n"

def runOctets (bound : Nat) (setup : Setup) (octets : List UInt8) :
    Journal × Except Crash (String × Nat) :=
  match Text.Utf8.decode octets with
  | .error m => ([], .error (.malformed m))
  | .ok text =>
    match runSource bound text setup with
    | (journal, .ok report) => (journal, .ok (fileResult report))
    | (journal, .error r)   => (journal, .error (.refused r))

def runFile (bound : Nat) (setup : Setup) (v : Volume) (path : String) :
    Journal × Except Crash (String × Nat) :=
  if path.toList.contains '\x00' then ([], .error .nullInPath)
  else
    match v.read path with
    | .error e   => ([], .ok (openProblem path e, 2))
    | .ok octets => runOctets bound setup octets

end CommandLine

end StackForth
