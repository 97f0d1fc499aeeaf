import StackForth.SelfCheck.Machine
import StackForth.Session
import StackForth.Text.Search

namespace StackForth.SelfCheck

def bound : Nat := 10000

def reportOf (program : List Instruction) (entries : Entries) (setup : Setup) : Option Report :=
  (runProgram bound (program.map .instruction) entries setup).2.toOption

def sourceReport (text : String) (setup : Setup) : Option Report :=
  (runSource bound text setup).2.toOption

def kindOfReport (r : Report) : Option Kind :=
  r.trouble?.map Trouble.kind

def programChecks : List Check := group "TestRunProgram" [
  ("test_ok",
    (reportOf [.push 5, .call 3, .halt, .prim .dup, .prim .mul, .ret] [] {}).any fun r =>
      r.isOk && r.cells == [25] && kindOfReport r == none && r.steps == 6),
  ("test_failure_is_a_result",
    (reportOf [.push 1, .prim .mul] [] {}).any fun r =>
      !r.isOk && kindOfReport r == some .stackUnderflow && r.cells == [1] &&
      match r.trouble? with
      | some (.machine f) => f.ip == 1
      | _                 => false),
  ("test_bad_dictionary_rejected_before_running",
    (reportOf callingProgram [(.text "w", .text "2")] {}).isNone &&
    (reportOf callingProgram [(.text "w", .int 2)] {}).any Report.isOk),
  ("test_options_forwarded",
    (reportOf [.push 1, .prim .dup] [] { tracing := true }).any fun r =>
      Text.occursIn "PUSH 1".toList r.output.toList)]

def sourceChecks : List Check := group "TestRunSource" [
  ("test_square",
    (sourceReport "5 square : square dup * ;" {}).any fun r => r.isOk && r.cells == [25]),
  ("test_parse_error",
    (sourceReport ": oops 1" {}).any fun r =>
      !r.isOk && kindOfReport r == some .malformedDefinition),
  ("test_unknown_word",
    (sourceReport "1 2 frob" {}).any fun r =>
      kindOfReport r == some .unknownWord && r.cells == [1, 2]),
  ("test_step_limit",
    (sourceReport ": loop loop ; loop" { limit := some 100 }).any fun r =>
      kindOfReport r == some .stepLimit)]

def sessionAfter (lines : List String) : Session :=
  lines.foldl (fun s line => (s.evaluate bound line).1) { limit := some 10000 }

def reportAfter (lines : List String) (line : String) : Option Report :=
  ((sessionAfter lines).evaluate bound line).2.2.toOption

def sessionChecks : List Check := group "TestSession" [
  ("test_stack_persists",
    (reportAfter [] "1 2").any Report.isOk &&
    (reportAfter ["1 2"] "+").any (·.cells == [3]) && (sessionAfter ["1 2", "+"]).cells == [3]),
  ("test_words_persist",
    let lines := [": sq dup * ;", ": cube dup sq * ;"]
    (reportAfter lines "3 cube").any (·.cells == [27]) &&
    (sessionAfter (lines ++ ["3 cube"])).words.names == ["sq", "cube"]),
  ("test_failed_line_leaves_session_unchanged",
    let lines := ["7 : sq dup * ;", ": bad 1 ; drop drop"]
    let s := sessionAfter lines
    (reportAfter (lines.take 1) ": bad 1 ; drop drop").any (!·.isOk) && s.cells == [7] &&
    !s.words.names.contains "bad" &&
    (reportAfter lines ": half").any fun r => !r.isOk && r.cells == [7]),
  ("test_reset_and_compiled",
    let s := sessionAfter [": sq dup * ; 2"]
    s.compiled.dictionary == .ofList [("sq", 1)] && s.compiled.program[0]? == some .halt &&
    s.reset.cells == [] && s.reset.words.size == 0)]

def sessionSuite : Suite where
  part   := "miniforth_runtime"
  checks := programChecks ++ sourceChecks ++ sessionChecks

end StackForth.SelfCheck
