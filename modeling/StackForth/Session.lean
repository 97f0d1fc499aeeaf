import StackForth.Report

namespace StackForth

structure Session where
  limit   : Option Int := none
  tracing : Bool := false
  stack   : List Int := []
  words   : Table Program := .empty
  last    : Image := {}

namespace Session

def cells (s : Session) : List Int :=
  s.stack.reverse

def assembler (s : Session) : Assembler :=
  { bodies := s.words }

def setup (s : Session) : Setup where
  limit   := s.limit
  tracing := s.tracing
  cells   := s.cells.map .int

def accept (s : Session) (stack : List Int) (words : Table Program) (image : Image) : Session :=
  { s with stack := stack, words := words, last := image }

def evaluate (bound : Nat) (s : Session) (line : String) :
    Session × Journal × Except Refusal Report :=
  match s.assembler.feed line with
  | (a, .error e) => (s, a.journal, Report.ofAssemblyError s.stack e)
  | (a, .ok ())   =>
    match a.finalize.2 with
    | .error e  => (s, a.journal, Report.ofAssemblyError s.stack e)
    | .ok image =>
      let (journal, outcome) := image.run bound s.setup
      let journal := a.journal ++ image.journal ++ journal
      match outcome with
      | .error r   => (s, journal, .error r)
      | .ok report =>
        let s := if report.isOk then s.accept report.stack a.bodies image else s
        (s, journal, .ok report)

def reset (s : Session) : Session :=
  { s with stack := [], words := .empty, last := {} }

def compiled (s : Session) : Image :=
  .layout #[] s.words

end Session

end StackForth
