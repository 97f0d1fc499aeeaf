namespace StackForth

inductive Kind
  | stackUnderflow
  | returnStackUnderflow
  | unknownWord
  | invalidAddress
  | stepLimit
  | dictionaryLocked
  | malformedDefinition
  | invalidLiteral
  | parserFinalized
deriving DecidableEq

def Kind.name : Kind → String
  | .stackUnderflow       => "STACK_UNDERFLOW"
  | .returnStackUnderflow => "RETURN_STACK_UNDERFLOW"
  | .unknownWord          => "UNKNOWN_WORD"
  | .invalidAddress       => "INVALID_ADDRESS"
  | .stepLimit            => "STEP_LIMIT"
  | .dictionaryLocked     => "DICTIONARY_LOCKED"
  | .malformedDefinition  => "MALFORMED_DEFINITION"
  | .invalidLiteral       => "INVALID_LITERAL"
  | .parserFinalized      => "PARSER_FINALIZED"

end StackForth
