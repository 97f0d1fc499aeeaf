import StackForth.Listing
import StackForth.Machine.Load
import StackForth.SelfCheck.Basic

namespace StackForth.SelfCheck

def machine (program : List Instruction) (words : List (String × Nat)) : Machine where
  image := ⟨program.toArray, .ofList words⟩

def ran (m : Machine) : Machine × Machine.Ending :=
  m.runToEnd 10000

def cellsAfter (program : List Instruction) (words : List (String × Nat)) : List Int :=
  (ran (machine program words)).1.state.cells

def kindOf : Machine.Ending → Option Kind
  | .failed f => some f.fault.kind
  | _         => none

def refuses {ε α : Type} : Except ε α → Bool
  | .error _ => true
  | .ok _    => false

def cellsFrom (cells : List Int32) (ops : List Instruction) : List Int :=
  cellsAfter (cells.map .push ++ ops) []

def callingProgram : List Instruction :=
  [.callWord "w", .halt, .ret]

def squareCall : Instruction :=
  .callWord "square"

def instructionChecks : List Check := group "TestInstruction" [
  ("test_zero_operand_rejects_arg", refuses (Opcode.build (.prim .dup) (.int 1))),
  ("test_push_range",
    (Opcode.push.build (.int 2147483647)).toOption == some (.push 2147483647) &&
    refuses (Opcode.push.build (.int 2147483648)) &&
    refuses (Opcode.push.build (.bool true))),
  ("test_jump_zero_rejected", refuses (Opcode.jump.build (.int 0))),
  ("test_if_zero_zero_repeats_until_non_zero",
    let m := (ran (machine [.push 7, .push 0, .push 0, .ifZero 0] [])).1
    m.state.cells == [] && m.state.ip == 4),
  ("test_if_zero_zero_underflows_on_all_zero_stack",
    let (m, ending) := ran (machine [.push 0, .ifZero 0] [])
    kindOf ending == some .stackUnderflow && m.state.ip == 1),
  ("test_call_needs_non_negative", refuses (Opcode.call.build (.int (-1)))),
  ("test_of_and_str",
    (Instruction.ofName "dup" .none).toOption == some (.prim .dup) &&
    ((Instruction.ofName "PUSH" (.int 5)).toOption.map Instruction.text) == some "PUSH 5" &&
    squareCall.text == "CALL_WORD square" &&
    refuses (Instruction.ofName "NOPE" .none)),
  ("test_immutable", Instruction.push 1 != .push 2),
  ("test_wrap_i32",
    Cell.wrap (Cell.greatest + 1) == Cell.least && Cell.wrap (-5) == -5 &&
    Cell.wrap 4294967296 == 0)]

def exampleChecks : List Check := group "TestVMExamples" [
  ("test_arith_program",
    cellsAfter [.push 2, .push 3, .prim .add, .push 4, .prim .mul, .halt] [] == [20]),
  ("test_call_square",
    let m := (ran (machine [.push 5, .call 3, .halt, .prim .dup, .prim .mul, .ret] [])).1
    m.state.cells == [25] && m.state.returns == [] && m.state.halted),
  ("test_call_word",
    cellsAfter [.push 6, .callWord "sq", .halt, .prim .dup, .prim .mul, .ret] [("sq", 3)] == [36]),
  ("test_runs_off_the_end",
    let m := (ran (machine [.push 1, .push 2] [])).1
    m.state.cells == [1, 2] && !m.state.halted && m.state.ip == 2),
  ("test_halt_does_not_advance",
    let m := (ran (machine [.push 1, .halt, .push 2] [])).1
    m.state.cells == [1] && m.state.ip == 1),
  ("test_empty_program", cellsAfter [] [] == []),
  ("test_initial_stack",
    let loaded := Machine.load [.instruction (.prim .add)] [] { cells := [.int 4, .int 5] }
    (loaded.toOption.map fun m => (ran m).1.state.cells) == some [9] &&
    refuses (Machine.load [] [] { cells := [.int 1099511627776] }))]

-- Operations on stacks written bottom cell first, without bounds on the cells.
def model : Primitive → List Int → List Int
  | .add,     s => s.dropLast.dropLast ++ [s.getD (s.length - 2) 0 + s.getD (s.length - 1) 0]
  | .mul,     s => s.dropLast.dropLast ++ [s.getD (s.length - 2) 0 * s.getD (s.length - 1) 0]
  | .dup,     s => s ++ s.drop (s.length - 1)
  | .drop,    s => s.dropLast
  | .swap,    s => s.take (s.length - 2) ++ (s.drop (s.length - 2)).reverse
  | .over,    s => s ++ (s.drop (s.length - 2)).take 1
  | .rot,     s => s.take (s.length - 3) ++ s.drop (s.length - 2) ++ (s.drop (s.length - 3)).take 1
  | .nip,     s => s.take (s.length - 2) ++ s.drop (s.length - 1)
  | .tuck,    s => s.take (s.length - 2) ++ s.drop (s.length - 1) ++ s.drop (s.length - 2)
  | .twoDup,  s => s ++ s.drop (s.length - 2)
  | .twoDrop, s => s.take (s.length - 2)
  | .twoSwap, s => s.take (s.length - 4) ++ s.drop (s.length - 2) ++ (s.drop (s.length - 4)).take 2
  | .depth,   s => s ++ [(s.length : Int)]

def modelRun (program : List Instruction) : List Int :=
  program.foldl (fun s i =>
    match i with
    | .push v => s ++ [v.toInt]
    | .prim p => model p s
    | _       => s) []

def modelProgram : List Instruction :=
  [.push 3, .push (-1), .push 4, .push 1, .prim .rot, .prim .twoDup, .prim .add, .prim .over,
    .prim .mul, .prim .tuck, .prim .nip, .prim .depth, .prim .twoSwap, .prim .swap, .prim .dup,
    .prim .drop, .prim .twoDrop, .prim .mul]

def stackChecks : List Check := group "TestVMStackOps" [
  ("test_shuffles",
    cellsFrom [1, 2] [.prim .swap] == [2, 1] &&
    cellsFrom [1, 2] [.prim .over] == [1, 2, 1] &&
    cellsFrom [1, 2, 3] [.prim .rot] == [2, 3, 1] &&
    cellsFrom [1, 2] [.prim .nip] == [2] &&
    cellsFrom [1, 2] [.prim .tuck] == [2, 1, 2] &&
    cellsFrom [9, 1, 2] [.prim .tuck] == [9, 2, 1, 2] &&
    cellsFrom [1, 2] [.prim .twoDup] == [1, 2, 1, 2] &&
    cellsFrom [0, 1, 2] [.prim .twoDrop] == [0] &&
    cellsFrom [1, 2, 3, 4] [.prim .twoSwap] == [3, 4, 1, 2] &&
    cellsFrom [7, 7, 7] [.prim .depth] == [7, 7, 7, 3] &&
    cellsFrom [] [.prim .depth] == [0]),
  ("test_add_mul_operand_order_and_wrap",
    cellsFrom [2, 3] [.prim .add] == [5] &&
    cellsFrom [-4, 3] [.prim .mul] == [-12] &&
    cellsFrom [2147483647, 1] [.prim .add] == [Cell.least]),
  ("test_push_drop_round_trip",
    [[], [1], [3, -2, 8]].all fun cells =>
      cellsFrom cells [.push 42, .prim .drop] == cells.map Int32.toInt),
  ("test_dup_swap", cellsFrom [4, 9] [.prim .dup, .prim .swap] == [4, 9, 9]),
  ("test_two_swap_involution",
    [[1, 2, 3, 4], [0, 5, 6, 7, 8]].all fun cells =>
      cellsFrom cells [.prim .twoSwap, .prim .twoSwap] == cells.map Int32.toInt),
  ("test_reference_model", cellsAfter modelProgram [] == modelRun modelProgram)]

def controlChecks : List Check := group "TestVMControlFlow" [
  ("test_jump_forward_and_backward",
    cellsAfter [.push 1, .jump 2, .push 99, .push 2] [] == [1, 2]),
  ("test_countdown_loop",
    cellsAfter
      [.push 3, .prim .dup, .ifZero 4, .push (-1), .prim .add, .jump (-4), .halt] [] == [0]),
  ("test_if_zero_not_taken", cellsAfter [.push 5, .push 1, .ifZero 2, .push 7] [] == [5, 7]),
  ("test_nested_calls",
    cellsAfter
      [.push 3, .call 6, .halt, .prim .dup, .prim .add, .ret, .call 3, .call 3, .ret] [] == [12]),
  ("test_jump_out_of_bounds",
    match (ran (machine [.push 1, .jump (-5)] [])).2 with
    | .failed f => f.ip == 1 && f.fault.kind == .invalidAddress
    | _         => false),
  ("test_if_zero_out_of_bounds_keeps_stack",
    let (m, ending) := ran (machine [.push 0, .ifZero 10] [])
    kindOf ending == some .invalidAddress && m.state.cells == [0]),
  ("test_jump_to_end_is_legal", cellsAfter [.push 1, .jump 2, .push 2] [] == [1]),
  ("test_step_limit",
    let (m, ending) := ran { machine [.push 1, .jump (-1)] [] with limit := some 50 }
    kindOf ending == some .stepLimit && m.state.steps == 50),
  ("test_step_one",
    let (m₁, a₁) := (machine [.push 1, .push 2, .prim .add] []).step
    let (m₂, a₂) := m₁.step
    let (m₃, a₃) := m₂.step
    let (m₄, a₄) := m₃.step
    m₁.state.cells == [1] && m₄.state.cells == [3] &&
    [a₁, a₂, a₃, a₄].map Except.toOption == [some true, some true, some false, some false]),
  ("test_trace_output",
    (ran { machine [.push 2, .prim .dup] [] with tracing := true }).1.output ==
      "[0000] PUSH 2               <0> \n[0001] DUP                  <1> 2\n")]

def underflows (i : Instruction) : Bool :=
  let cells : List Int32 := (List.range (i.needs - 1)).map fun n => 10 + Int32.ofNat n
  let (m, ending) := ran (machine (cells.map .push ++ [i]) [])
  let stack := (cells.map Int32.toInt).reverse
  m.state.stack == stack &&
    ending == .failed ⟨.stackUnderflow i.opcode i.needs stack.length, stack.length, some i, stack⟩

def errorChecks : List Check := group "TestVMErrors" [
  ("test_underflow_per_op",
    underflows (.ifZero 1) &&
    (Primitive.all.filter (· ≠ .depth)).all fun p => underflows (.prim p)),
  ("test_unknown_word",
    let (m, ending) := ran (machine [.push 1, .callWord "nope", .push 2] [])
    kindOf ending == some .unknownWord && m.state.ip == 1 && m.state.cells == [1] &&
    m.state.returns == []),
  ("test_return_underflow", kindOf (ran (machine [.ret] [])).2 == some .returnStackUnderflow),
  ("test_call_out_of_bounds",
    let (m, ending) := ran (machine [.call 9] [])
    kindOf ending == some .invalidAddress && m.state.returns == []),
  ("test_dictionary_locked_after_start",
    let m := (machine (.push 1 :: callingProgram) []).install [(.text "w", .int 3)] |>.1
    let m := m.step.1
    let (m, locked) := m.install [(.text "w", .int 2)]
    refuses locked && (ran m).1.state.cells == [1]),
  ("test_dictionary_read_only",
    let m := machine [] [("a", 0)]
    m.image.dictionary.find? "a" == some 0),
  ("test_dictionary_entries_validated",
    let program := callingProgram
    let bad : List Datum := [.text "2", .int (-1), .bool true, .none]
    let (m, refused) := (machine program []).install [(.text "w", .text "2")]
    let n := (m.install [(.text "w", .int 2)]).1
    bad.all (fun d => refuses (Machine.load (program.map .instruction) [(.text "w", d)] {})) &&
    refuses refused && m.image.dictionary.size == 0 && (ran n).1.state.halted),
  ("test_program_must_hold_instructions",
    refuses (Machine.load [.instruction (.push 1), .foreign (.text "DUP")] [] {}))]

def listingChecks : List Check := group "TestDisassemble" [
  ("test_listing_with_labels",
    let image : Image :=
      ⟨#[.push 5, .callWord "sq", .halt, .prim .dup, .prim .mul, .ret], .ofList [("sq", 3)]⟩
    image.listing ==
      "0000  PUSH 5\n0001  CALL_WORD sq\n0002  HALT\n      sq:\n0003  DUP\n0004  MUL\n0005  RETURN")]

def machineSuite : Suite where
  part   := "miniforth_vm_core"
  checks := instructionChecks ++ exampleChecks ++ stackChecks ++ controlChecks ++ errorChecks ++
    listingChecks

end StackForth.SelfCheck
