import StackForth.Assembler
import StackForth.SelfCheck.Machine

namespace StackForth.SelfCheck

def cellsOfText (text : String) : Option (List Int) :=
  (assemble text).toOption.map fun image => (ran { image := image }).1.state.cells

def parseErrorOf (text : String) : Option ParseError :=
  match assemble text with
  | .error (.parse e) => some e
  | _                 => none

def isMalformed (text : String) : Bool :=
  (parseErrorOf text).any (·.complaint.kind == .malformedDefinition)

def imageOfParts (parts : List String) : Option Image :=
  (parts.foldl (fun a part => (a.feed part).1) ({} : Assembler)).finalize.2.toOption

def cellLiteral? (token : String) : Option Int :=
  match Literal.read token with
  | .cell v => some v.toInt
  | _       => none

def isNoNumeral (token : String) : Bool :=
  match Literal.read token with
  | .notNumeral => true
  | _           => false

def isOutOfRange (token : String) : Bool :=
  match Literal.read token with
  | .outOfRange => true
  | _           => false

def squareImage : Image :=
  ⟨#[.push 5, squareCall, .halt, .prim .dup, .prim .mul, .ret], .ofList [("square", 3)]⟩

def tokenChecks : List Check := group "TestTokenize" [
  ("test_whitespace",
    Text.tokens "  1\t2\n: sq dup * ;  " == ["1", "2", ":", "sq", "dup", "*", ";"]),
  ("test_try_parse_int",
    cellLiteral? "42" == some 42 && cellLiteral? "-7" == some (-7) && cellLiteral? "+3" == some 3 &&
    isNoNumeral "2dup" && isNoNumeral "1_000" && isNoNumeral "-" && isOutOfRange "2147483648")]

def assemblerChecks : List Check := group "TestParser" [
  ("test_square_example_layout",
    (assemble "5 square : square dup * ;").toOption == some squareImage),
  ("test_square_example_runs", cellsOfText "5 square : square dup * ;" == some [25]),
  ("test_main_after_definitions",
    let text := ": inc 1 + ; : twice dup + ; 3 inc twice 10 inc"
    let firstOf (image : Image) (word : String) : Option Instruction :=
      (image.dictionary.find? word).bind fun a => image.program[a]?
    cellsOfText text == some [8, 11] &&
    (assemble text).toOption.any fun image =>
      firstOf image "inc" == some (.push 1) && firstOf image "twice" == some (.prim .dup)),
  ("test_all_builtins",
    let text := "1 2 3 4 2swap 2dup 2drop rot nip tuck over swap drop depth"
    let ops : List Primitive :=
      [.twoSwap, .twoDup, .twoDrop, .rot, .nip, .tuck, .over, .swap, .drop, .depth]
    (assemble text).toOption.any fun image =>
      (image.program.toList.drop 4).dropLast == ops.map Instruction.prim),
  ("test_words_calling_words", cellsOfText ": sq dup * ; : quad sq sq ; 2 quad" == some [16]),
  ("test_redefinition_last_wins",
    let text := ": w 1 ; : v 2 ; : w 3 ; w v"
    cellsOfText text == some [3, 2] &&
    ((assemble text).toOption.map (·.dictionary.names)) == some ["v", "w"]),
  ("test_empty_definition",
    let text := ": nop ; 1 nop"
    cellsOfText text == some [1] &&
    (assemble text).toOption.any fun image =>
      ((image.dictionary.find? "nop").bind fun a => image.program[a]?) == some .ret),
  ("test_undefined_word_deferred_to_runtime",
    (assemble "1 ghost").toOption.any fun image =>
      image.program[1]? == some (.callWord "ghost") &&
      kindOf (ran { image := image }).2 == some .unknownWord),
  ("test_streaming_feed",
    ((imageOfParts [": sq dup", "* ; 4", "sq"]).map fun image =>
      (ran { image := image }).1.state.cells) == some [16]),
  ("test_empty_source", (assemble "   ").toOption == some ⟨#[.halt], .empty⟩),
  ("test_seeded_words",
    let words := (Assembler.feed {} ": sq dup * ;").1.bodies
    ((Assembler.parse { bodies := words } "3 sq").2.toOption.any fun image =>
      image.dictionary == .ofList [("sq", 3)] && (ran { image := image }).1.state.cells == [9]))]

def assemblerErrorChecks : List Check := group "TestParserErrors" [
  ("test_semicolon_outside", parseErrorOf "1 ;" == some ⟨.strayEnd, ";", 1⟩ && isMalformed "1 ;"),
  ("test_nested_definition", isMalformed ": a : b ; ;"),
  ("test_unterminated", isMalformed ": a dup" && isMalformed "1 :"),
  ("test_bad_names", [": ; ;", ": : ;", ": 12 ;", ": dup 1 ;"].all isMalformed),
  ("test_literal_out_of_range",
    parseErrorOf "1 -2147483649" == some ⟨.outOfRange "-2147483649", "-2147483649", 1⟩),
  ("test_single_use",
    let a := (Assembler.parse {} "1").1
    refuses (a.feed "2").2 && refuses a.finalize.2)]

def agreementChecks : List Check := group "TestHandBuiltAgainstParsed" [
  ("test_call_equivalent",
    (assemble "5 sq : sq dup * ;").toOption.any fun image =>
      (image.dictionary.find? "sq").any fun a =>
        let direct : List Instruction := [.push 5, .call a] ++ image.program.toList.drop 2
        cellsAfter direct [] == (ran { image := image }).1.state.cells)]

def assemblerSuite : Suite where
  part   := "miniforth_assembler"
  checks := tokenChecks ++ assemblerChecks ++ assemblerErrorChecks ++ agreementChecks

end StackForth.SelfCheck
