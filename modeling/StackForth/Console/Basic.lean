import StackForth.Listing
import StackForth.Session
import StackForth.Text.LowerCase
import StackForth.Text.Search

namespace StackForth.Console

structure Reply where
  text    : String := ""
  leaves  : Bool := false
  journal : Journal := []

inductive Command
  | help
  | stack
  | dict
  | see
  | dis
  | steps
  | trace
  | reset
  | bye
deriving DecidableEq

namespace Command

def all : List Command :=
  [.help, .stack, .dict, .see, .dis, .steps, .trace, .reset, .bye]

def name : Command → String
  | .help  => ".help"
  | .stack => ".stack"
  | .dict  => ".dict"
  | .see   => ".see"
  | .dis   => ".dis"
  | .steps => ".steps"
  | .trace => ".trace"
  | .reset => ".reset"
  | .bye   => ".bye"

def ofName? (name : String) : Option Command :=
  all.find? (·.name == name)

end Command

def helpText : String :=
  ".stack .dict [.see <w>] .dis\n.steps [n] / .trace [on|off] / .reset / .bye\n"

-- The names of the words, in order. A filter leaves those that hold it, whatever the case of the
-- letters.
def wordList (words : Table Program) (filter? : Option String) : String :=
  let names :=
    match filter? with
    | none      => words.names
    | some part =>
      let part := (Text.lowerCase part).toList
      words.names.filter fun name => Text.occursIn part (Text.lowerCase name).toList
  " ".intercalate (Text.sorted names) ++ "\n"

def definition (words : Table Program) (name? : Option String) : String :=
  match name?.bind fun name => (words.find? name).map (name, ·) with
  | some (name, body) =>
    ": " ++ name ++ "  " ++ " ".intercalate (body.toList.dropLast.map Instruction.text) ++ " ;\n"
  | none => "unknown: " ++ name?.getD "" ++ "\n"

-- The step limit that a count stands for: no limit unless it is positive.
def limitOf (count : Int) : Option Int :=
  if 0 < count then some count else none

def limitText (limit : Option Int) : String :=
  let amount :=
    match limit with
    | none   => "unlimited"
    | some n => if n = 0 then "unlimited" else Text.decimal n
  "max_steps=" ++ amount ++ "\n"

def isYes (word : String) : Bool :=
  ["on", "1", "yes", "true"].contains (Text.lowerCase word)

def setLimit (s : Session) : Option String → Session × String
  | none      => (s, limitText s.limit)
  | some word =>
    match readCount? word with
    | none   => (s, "usage: .steps [n]  (0 = unlimited)\n")
    | some n =>
      let s := { s with limit := limitOf n }
      (s, limitText s.limit)

def setTracing (s : Session) (word? : Option String) : Session × String :=
  let s :=
    match word? with
    | none      => s
    | some word => { s with tracing := isYes word }
  (s, "trace=" ++ (if s.tracing then "on" else "off") ++ "\n")

def Command.obey (s : Session) (argument? : Option String) : Command → Session × Reply
  | .help  => (s, { text := helpText })
  | .stack => (s, { text := stackText s.cells ++ "\n" })
  | .dict  => (s, { text := wordList s.words argument? })
  | .see   => (s, { text := definition s.words argument? })
  | .dis   =>
    let text := if s.last.program.isEmpty then "(nothing assembled yet)" else s.last.listing
    (s, { text := text ++ "\n" })
  | .steps => let (s, text) := setLimit s argument?; (s, { text := text })
  | .trace => let (s, text) := setTracing s argument?; (s, { text := text })
  | .reset => (s.reset, { text := "reset\n" })
  | .bye   => (s, { text := "bye.\n", leaves := true })

def command? (s : Session) : List String → Option (Session × Reply)
  | []              => none
  | name :: operands =>
    match Command.ofName? name with
    | some c => some (c.obey s operands.head?)
    | none   => some (s, { text := "unknown dot-cmd: " ++ name ++ "\n" })

def noCommand : String := "list index out of range"

def refusalName : Refusal → String
  | .invalid _                  => "miniforth_vm_core.InvalidInstruction"
  | .unreadable _ | .unwritable => "ValueError"

def refusalText (r : Refusal) : String :=
  "internal error: " ++ r.message ++ "\nTraceback (most recent call last):\n" ++ refusalName r ++
    ": " ++ r.message ++ "\n"

-- What is printed about a report: the trace, then the stack or the error.
def reportText (r : Report) : String :=
  match r.verdict with
  | .ok         => r.output ++ "ok " ++ stackText r.cells ++ "\n"
  | .failed t   => r.output ++ t.line
  | .unfinished => r.output

def evaluate (bound : Nat) (s : Session) (line : String) : Session × Reply :=
  match s.evaluate bound line with
  | (s, journal, .ok report) => (s, { text := reportText report, journal := journal })
  | (s, journal, .error r)   => (s, { text := refusalText r, journal := journal })

def answer (bound : Nat) (s : Session) (line : String) : Session × Reply :=
  let stripped := Text.trim line
  match stripped.toList with
  | []       => (s, {})
  | '.' :: _ => (command? s (Text.tokens stripped)).getD (s, {})
  | _        => evaluate bound s line

end StackForth.Console
