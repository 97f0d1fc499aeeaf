import StackForth.Console.Basic

namespace StackForth.Console

def wordBefore (text : String) (cursor : Nat) : String :=
  String.ofList ((text.toList.take cursor).reverse.takeWhile (!Text.isBlank ·)).reverse

-- The names that can complete a word: commands after a dot, else primitives and words.
def candidates (s : Session) (word : String) : List String :=
  if word.toList.head? = some '.'
  then Text.sorted (Command.all.map Command.name)
  else Text.sorted (Primitive.all.map Primitive.word ++ s.words.names).eraseDups

def completions (s : Session) (text : String) (cursor : Nat) : List (String × Int) :=
  let word := wordBefore text cursor
  if word = "" then []
  else
    let names := (candidates s word).filter fun name => word.toList.isPrefixOf name.toList
    names.map fun name => (name, -(word.length : Int))

inductive Input
  | line (text : String)
  | complete (text : String) (cursor : Nat)
  | interrupt
  | endOfInput

inductive Shown
  | out (text : String)
  | err (text : String)
  | prompt (text : String)
  | completions (names : List (String × Int))

def banner : String :=
  "miniforth REPL\nType Forth code; .help for dot-commands, .bye or Ctrl-D to quit.\n"

def prompt (s : Session) : String :=
  "[" ++ Nat.repr s.stack.length ++ "] miniforth> "

def farewell : String := "\nEOF -> quitting.\n"

def interruptText : String := "\nKeyboardInterrupt (Ctrl-C). Use .bye to exit.\n"

def dialogue (bound : Nat) (debug : Bool) (s : Session) : List Input → Session × List Shown
  | []                => (s, [.out farewell])
  | .endOfInput :: _  => (s, [.out farewell])
  | .complete text cursor :: rest =>
    let (t, shown) := dialogue bound debug s rest
    (t, .completions (completions s text cursor) :: shown)
  | .interrupt :: rest =>
    let (t, shown) := dialogue bound debug s rest
    (t, .out interruptText :: .prompt (prompt s) :: shown)
  | .line text :: rest =>
    let (s, reply) := answer bound s text
    let notes := if debug then reply.journal.text else ""
    if reply.leaves then (s, [.err notes, .out reply.text])
    else
      let (t, shown) := dialogue bound debug s rest
      (t, .err notes :: .out reply.text :: .prompt (prompt s) :: shown)

def converse (bound : Nat) (debug : Bool) (s : Session) (inputs : List Input) :
    Session × List Shown :=
  let (t, shown) := dialogue bound debug s inputs
  (t, .out banner :: .prompt (prompt s) :: shown)

end StackForth.Console
