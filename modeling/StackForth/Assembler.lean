import StackForth.Kind
import StackForth.Layout
import StackForth.Refusal

namespace StackForth

inductive Complaint
  | nestedDefinition (name : String)
  | strayEnd
  | reservedName (token : String)
  | numeralName
  | primitiveName (token : String)
  | outOfRange (token : String)
  | missingName
  | openDefinition (name : String)
  | finalized
deriving DecidableEq

namespace Complaint

def kind : Complaint → Kind
  | .outOfRange _ => .invalidLiteral
  | .finalized    => .parserFinalized
  | _             => .malformedDefinition

def message : Complaint → String
  | .nestedDefinition name => "nested definition inside " ++ Text.quote name
  | .strayEnd              => "; outside a definition"
  | .reservedName token    => Text.quote token ++ " is not a valid word name"
  | .numeralName           => "a number cannot be a word name"
  | .primitiveName token   => "cannot redefine built-in " ++ Text.quote token
  | .outOfRange token      => "literal out of signed 32-bit range: " ++ token
  | .missingName           => "end of input: ':' without a word name"
  | .openDefinition name   => "end of input inside definition of " ++ Text.quote name
  | .finalized             => "parser already finalized"

end Complaint

-- A complaint with its place: the token, if there is one, and the number of tokens before it.
structure ParseError where
  complaint : Complaint
  token     : Option String
  position  : Nat
deriving DecidableEq

def ParseError.message (e : ParseError) : String :=
  match e.token with
  | some token =>
    e.complaint.message ++ " (token " ++ Text.quote token ++ " at " ++ Nat.repr e.position ++ ")"
  | none       => e.complaint.message

inductive AssemblyError
  | parse (e : ParseError)
  | refused (r : Refusal)

-- What the assembler is in the middle of: the main part, a definition whose name comes next, or the
-- body of a definition.
inductive Mode
  | main
  | naming
  | defining (name : String) (body : Program)
deriving DecidableEq

-- An assembler. The bodies stand in the order in which their definitions ended.
structure Assembler where
  main      : Program := #[]
  bodies    : Table Program := .empty
  mode      : Mode := .main
  position  : Nat := 0
  finalized : Bool := false
  redefined : List String := []
deriving DecidableEq

namespace Assembler

def complain (a : Assembler) (complaint : Complaint) (token : Option String) : AssemblyError :=
  .parse ⟨complaint, token, a.position⟩

-- The instruction for a token that is neither `:` nor `;`. A name is resolved when the program
-- runs.
def item (a : Assembler) (token : String) : Except AssemblyError Instruction :=
  match Literal.read token with
  | .cell v         => .ok (.push v)
  | .tooLong digits => .error (.refused (.unreadable digits))
  | .outOfRange     => .error (a.complain (.outOfRange token) token)
  | .notNumeral     =>
    match Primitive.ofWord? token with
    | some p => .ok (.prim p)
    | none   =>
      if h : token = ""
      then .error (.refused (.invalid (.wordOperand (.text token))))
      else .ok (.callWord token h)

def nameComplaint? (token : String) : Option Complaint :=
  if token = ":" ∨ token = ";" then some (.reservedName token)
  else if isNumeral token then some .numeralName
  else if (Primitive.ofWord? token).isSome then some (.primitiveName token)
  else none

-- Puts a body into the table of words. A word that was there goes to the end.
def define (a : Assembler) (name : String) (body : Program) : Assembler :=
  { a with
    bodies    := a.bodies.define name (body.push .ret)
    mode      := .main
    redefined := if name ∈ a.bodies.names then a.redefined ++ [name] else a.redefined }

-- Takes a token. A token that is refused changes nothing, but a refused name gives up its
-- definition.
def feedToken (a : Assembler) (token : String) : Assembler × Except AssemblyError Unit :=
  if a.finalized then
    (a, .error (a.complain .finalized token))
  else
    match a.mode with
    | .naming =>
      match nameComplaint? token with
      | some complaint => ({ a with mode := .main }, .error (a.complain complaint token))
      | none           => ({ a with mode := .defining token #[] }, .ok ())
    | .main =>
      if token = ":" then ({ a with mode := .naming }, .ok ())
      else if token = ";" then (a, .error (a.complain .strayEnd token))
      else
        match a.item token with
        | .ok i    => ({ a with main := a.main.push i }, .ok ())
        | .error e => (a, .error e)
    | .defining name body =>
      if token = ":" then (a, .error (a.complain (.nestedDefinition name) token))
      else if token = ";" then (a.define name body, .ok ())
      else
        match a.item token with
        | .ok i    => ({ a with mode := .defining name (body.push i) }, .ok ())
        | .error e => (a, .error e)

def feedTokens (a : Assembler) : List String → Assembler × Except AssemblyError Unit
  | []            => (a, .ok ())
  | token :: rest =>
    match a.feedToken token with
    | (a, .ok ())   => { a with position := a.position + 1 }.feedTokens rest
    | (a, .error e) => (a, .error e)

def feed (a : Assembler) (text : String) : Assembler × Except AssemblyError Unit :=
  if a.finalized
  then (a, .error (a.complain .finalized none))
  else a.feedTokens (Text.tokens text)

def definitions (a : Assembler) : Except AssemblyError (Table Program) :=
  if a.finalized
  then .error (a.complain .finalized none)
  else .ok a.bodies

-- Lays out the image, after which the assembler takes no more. An open definition is refused and can
-- be completed later.
def finalize (a : Assembler) : Assembler × Except AssemblyError Image :=
  if a.finalized then
    (a, .error (a.complain .finalized none))
  else
    match a.mode with
    | .naming          => (a, .error (a.complain .missingName none))
    | .defining name _ => (a, .error (a.complain (.openDefinition name) name))
    | .main            =>
      ({ a with main := #[], bodies := .empty, finalized := true }, .ok (Image.layout a.main a.bodies))

def parse (a : Assembler) (text : String) : Assembler × Except AssemblyError Image :=
  match a.feed text with
  | (a, .ok ())   => a.finalize
  | (a, .error e) => (a, .error e)

end Assembler

def assemble (text : String) : Except AssemblyError Image :=
  (Assembler.parse {} text).2

end StackForth
