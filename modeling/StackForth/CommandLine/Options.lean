import StackForth.Numeral
import StackForth.Text.Quoted

namespace StackForth

-- What a command line gives for the step limit. It is void where `--` stands for the count; no run
-- can begin with that.
inductive LimitChoice
  | absent
  | count (n : Int)
  | void
deriving DecidableEq

structure Options where
  file     : Option String := none
  maxSteps : LimitChoice := .absent
  trace    : Bool := false
  debug    : Bool := false
  test     : Bool := false
deriving DecidableEq

namespace Options

inductive Switch
  | help
  | maxSteps
  | trace
  | debug
  | test
deriving DecidableEq

def spellings : List (String × Switch) :=
  [("-h", .help), ("--help", .help), ("--max-steps", .maxSteps), ("--trace", .trace),
    ("--debug", .debug), ("--test", .test)]

def Switch.label : Switch → String
  | .help     => "-h/--help"
  | .maxSteps => "--max-steps"
  | .trace    => "--trace"
  | .debug    => "--debug"
  | .test     => "--test"

-- What stands in the same argument behind a switch: nothing, a value behind an equals sign, or what
-- is attached to the short switch, with an equals sign between or without.
inductive Tail
  | nothing
  | value (text : String)
  | attached (cs : List Char)

inductive Argument
  | plain (text : String)
  | divider
  | switch (s : Switch) (tail : Tail)
  | unknown (text : String)

def splitValue (cs : List Char) : String × Tail :=
  match cs.dropWhile (· ≠ '=') with
  | []         => (String.ofList cs, .nothing)
  | _ :: value => (String.ofList (cs.takeWhile (· ≠ '=')), .value (String.ofList value))

def isDecimal (c : Char) : Bool :=
  (Text.decimalDigit? c).isSome

-- A negative number: a dash and digits, with at most one point that digits follow. A line feed may
-- end it.
def isNegativeNumber (cs : List Char) : Bool :=
  match cs with
  | '-' :: rest =>
    let rest := if rest.getLast? = some '\n' then rest.dropLast else rest
    match rest.dropWhile isDecimal with
    | []          => !rest.isEmpty
    | '.' :: more => !more.isEmpty && more.all isDecimal
    | _           => false
  | _ => false

def abbreviated (start : String) : List (String × Switch) :=
  spellings.filter fun s => start.toList.isPrefixOf s.1.toList

def looksUnknown (text : String) : Argument :=
  if isNegativeNumber text.toList || text.toList.contains ' ' then .plain text else .unknown text

def classify (text : String) : Except String Argument :=
  match text.toList with
  | '-' :: c :: rest =>
    match spellings.lookup text with
    | some s => .ok (.switch s .nothing)
    | none   =>
      let (start, tail) := splitValue text.toList
      match tail, spellings.lookup start with
      | .value value, some s =>
        .ok (.switch s (if c == '-' then .value value else .attached value.toList))
      | _,            _      =>
        if c == '-' then
          match abbreviated start with
          | []       => .ok (looksUnknown text)
          | [(_, s)] => .ok (.switch s tail)
          | several  =>
            .error ("ambiguous option: " ++ text ++ " could match " ++
              ", ".intercalate (several.map Prod.fst))
        else if c == 'h' then .ok (.switch .help (.attached rest))
        else .ok (looksUnknown text)
  | _ => .ok (.plain text)

-- What the arguments are. Behind the first `--` nothing is an option.
def classifyAll : List String → Except String (List Argument)
  | []           => .ok []
  | text :: rest =>
    if text = "--" then .ok (.divider :: rest.map .plain)
    else do
      let a ← classify text
      return a :: (← classifyAll rest)

inductive Request
  | run (o : Options)
  | help
  | usage (problem : String)
deriving DecidableEq

-- Whether the place of the file is free, was filled by the argument just before, or earlier.
inductive Place
  | free
  | justFilled
  | filled

def Place.next : Place → Place
  | .free => .free
  | _     => .filled

def unwanted (s : Switch) (value : String) : String :=
  "argument " ++ s.label ++ ": ignored explicit argument " ++ Text.quote value

-- The problem with what is attached to `-h`, which may only be the same letter over and over.
def attachedProblem? : List Char → Option String
  | [] => some (unwanted .help "")
  | cs =>
    match cs.dropWhile (· = 'h') with
    | []   => none
    | rest => some (unwanted .help (String.ofList rest))

def Tail.problem? (s : Switch) : Tail → Option String
  | .nothing     => none
  | .value v     => some (unwanted s v)
  | .attached cs => attachedProblem? cs

def turnOn (o : Options) : Switch → Options
  | .trace => { o with trace := true }
  | .debug => { o with debug := true }
  | .test  => { o with test := true }
  | _      => o

def withLimit (o : Options) (text : String) : Except String Options :=
  if text = "--" then .ok { o with maxSteps := .void }
  else
    match readCount? text with
    | some n => .ok { o with maxSteps := .count n }
    | none   => .error ("argument --max-steps: invalid int value: " ++ Text.quote text)

-- Takes arguments from left to right. Files beyond the first and unknown options are `extra` and
-- become a problem only at the end.
def take (o : Options) (place : Place) (extra : List String) : List Argument → Request
  | [] =>
    if extra.isEmpty then .run o
    else .usage ("unrecognized arguments: " ++ " ".intercalate extra)
  | .plain text :: rest =>
    match place with
    | .free => take { o with file := some text } .justFilled extra rest
    | _     => take o .filled (extra ++ [text]) rest
  | .divider :: rest =>
    match place with
    | .filled => take o .filled (extra ++ ["--"]) rest
    | _       => take o place.next extra rest
  | .unknown text :: rest => take o place.next (extra ++ [text]) rest
  | .switch .maxSteps (.value v) :: rest =>
    match o.withLimit v with
    | .ok o          => take o place.next extra rest
    | .error problem => .usage problem
  | .switch .maxSteps _ :: .plain v :: rest =>
    match o.withLimit v with
    | .ok o          => take o place.next extra rest
    | .error problem => .usage problem
  | .switch .maxSteps _ :: _ => .usage "argument --max-steps: expected one argument"
  | .switch s tail :: rest =>
    match tail.problem? s with
    | some problem => .usage problem
    | none         => if s = .help then .help else take (turnOn o s) place.next extra rest

def read (arguments : List String) : Request :=
  match classifyAll arguments with
  | .ok as         => take {} .free [] as
  | .error problem => .usage problem

def usageText : String :=
  "usage: miniforth [-h] [--max-steps MAX_STEPS] [--trace] [--debug] [--test]\n" ++
  "                 [file]\n"

def problemText (problem : String) : String :=
  usageText ++ "miniforth: error: " ++ problem ++ "\n"

def helpText : String :=
  usageText ++
  "\nminiforth stack VM\n" ++
  "\npositional arguments:\n" ++
  "  file                  source file to run (REPL if omitted)\n" ++
  "\noptions:\n" ++
  "  -h, --help            show this help message and exit\n" ++
  "  --max-steps MAX_STEPS\n" ++
  "                        abort after N instructions (0 = unlimited)\n" ++
  "  --trace               print every executed instruction\n" ++
  "  --debug               enable debug logging\n" ++
  "  --test                run the built-in tests\n"

end Options

end StackForth
