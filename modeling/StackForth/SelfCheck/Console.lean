import StackForth.CommandLine.File
import StackForth.CommandLine.Options
import StackForth.Console.Basic
import StackForth.SelfCheck.Session

namespace StackForth.SelfCheck

structure Probe where
  session : Session := { limit := some 10000 }
  journal : Journal := []
  holds   : Bool := true

namespace Probe

def line (p : Probe) (text : String) (test : String → Bool) : Probe :=
  let (s, reply) := Console.answer bound p.session text
  ⟨s, p.journal ++ reply.journal, p.holds && test reply.text⟩

def dot (p : Probe) (text : String) (test : Console.Reply → Bool) : Probe :=
  match Console.command? p.session (Text.tokens text) with
  | some (s, reply) => ⟨s, p.journal, p.holds && test reply⟩
  | none            => { p with holds := false }

def prints (p : Probe) (command text : String) : Probe :=
  p.dot command (·.text == text)

def mentions (p : Probe) (command part : String) : Probe :=
  p.dot command fun r => Text.occursIn part.toList r.text.toList

def sees (p : Probe) (test : Session → Bool) : Probe :=
  { p with holds := p.holds && test p.session }

def check (p : Probe) (group name : String) : Check where
  group   := group
  name    := name
  journal := p.journal
  holds   := p.holds

end Probe

def holdsPart (part : String) (text : String) : Bool :=
  Text.occursIn part.toList text.toList

def lineChecks : List Check :=
  let p : Probe := {}
  let name := "TestREPL_Lines"
  [ (p.line "2 3 +" (· == "ok <1> 5\n")
      |>.line "4 *" (· == "ok <1> 20\n")).check name "test_forth_line_prints_stack",
    (p.line "1" (fun _ => true)
      |>.line "+" (holdsPart "error: STACK_UNDERFLOW")
      |>.sees (·.cells == [1])).check name "test_error_reported_and_session_kept",
    (p.line "   " (· == "")).check name "test_blank_line",
    (p.line ".trace on" (fun _ => true)
      |>.line "7 dup" fun text =>
        holdsPart "PUSH 7" text && "ok <2> 7 7\n".toList.isSuffixOf text.toList).check name
      "test_trace_output"]

def commandChecks : List Check :=
  let p := ({} : Probe).line ": sq dup * ; : cube dup sq * ; 2 cube" fun _ => true
  let name := "TestREPL_DotCommands"
  [ (p.prints ".stack" "<1> 8\n").check name "test_stack",
    (p.prints ".dict" "cube sq\n" |>.prints ".dict cu" "cube\n").check name "test_dict",
    (p.prints ".see cube" ": cube  DUP CALL_WORD sq MUL ;\n"
      |>.mentions ".see nope" "unknown").check name "test_see",
    (p.mentions ".dis" "sq:" |>.mentions ".dis" "HALT").check name "test_dis",
    (p.prints ".steps 5" "max_steps=5\n"
      |>.line ": spin spin ; spin" (holdsPart "STEP_LIMIT")
      |>.prints ".steps 0" "max_steps=unlimited\n").check name "test_steps",
    (p.dot ".reset" (fun _ => true)
      |>.prints ".stack" "<0> \n"
      |>.prints ".dict" "\n").check name "test_reset",
    (p.mentions ".frob" "unknown dot-cmd"
      |>.dot ".bye" (·.leaves)).check name "test_unknown_and_bye"]

def fileCheck (name text : String) (test : String × Nat → Bool) : Check :=
  let v : Volume := [("x.fs", .file text.toUTF8.toList)]
  let (journal, result) := CommandLine.runFile bound {} v "x.fs"
  { group := "TestCommandLine", name := name, journal := journal, holds := result.toOption.any test }

def fileChecks : List Check :=
  [ fileCheck "test_run_file" "5 square\n: square dup * ;\n" (· == ("Final stack: [25]\n", 0)),
    fileCheck "test_run_file_error" "1 ;" fun r =>
      r.2 == 1 && holdsPart "MALFORMED_DEFINITION" r.1] ++
  group "TestCommandLine" [
    ("test_missing_file",
      (CommandLine.runFile bound {} [] "/nonexistent/x.fs").2.toOption.any (·.2 == 2)),
    ("test_arg_parser",
      Options.read ["prog.fs", "--max-steps", "10", "--trace"] =
        .run { file := some "prog.fs", maxSteps := .count 10, trace := true })]

def consoleSuite : Suite where
  part   := "miniforth_repl"
  checks := lineChecks ++ commandChecks ++ fileChecks

end StackForth.SelfCheck
