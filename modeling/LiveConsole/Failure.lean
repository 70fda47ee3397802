import LiveConsole.Line.Token

/-! Why a line fails, and why a registration does. -/
namespace LiveConsole

inductive OperandFault where
  | indexNotInteger
  | notIndexable
  | indexOutOfRange
  | unknownProperty
  | emptyVariableName
  deriving DecidableEq, Repr

def OperandFault.message : OperandFault → String
  | indexNotInteger => "Index must be an integer"
  | notIndexable => "Value is not indexable"
  | indexOutOfRange => "Index out of range"
  | unknownProperty => "Unknown property"
  | emptyVariableName => "Variable name must not be empty"

inductive CommandError where
  | unknownVariable (token : Token)
  | unknownGlobal (token : Token)
  | unknownCommand (token : Token)
  | expectedParameters (expected : Nat) (token : Token)
  | invalidParameter (parameter expectedType : String) (token : Token)
  | expectedTarget (token : Token)
  | invalidTarget (expectedType : String) (token : Token)
  | unexpectedToken (token : Token)
  /-- The line does not come to one value, or a closing bracket has no opening one. -/
  | invalidCommand
  | notReady
  | operation (fault : OperandFault) (token : Token)
  deriving DecidableEq, Repr

namespace CommandError

/- An operand fault is reported against the text at fault, at the operator's place. -/
def ofOperand (fault : OperandFault) (detail : String) (operator : Token) : CommandError :=
  .operation fault (.ofLexeme (.bare .string detail operator.position))

def token? : CommandError → Option Token
  | .unknownVariable token | .unknownGlobal token | .unknownCommand token
  | .expectedParameters _ token | .invalidParameter _ _ token | .expectedTarget token
  | .invalidTarget _ token | .unexpectedToken token | .operation _ token => some token
  | .invalidCommand | .notReady => none

def code : CommandError → String
  | .unknownVariable _ => "UnknownVariable"
  | .unknownGlobal _ => "UnknownGlobal"
  | .unknownCommand _ => "UnknownCommand"
  | .expectedParameters .. => "ExpectedParameters"
  | .invalidParameter .. => "InvalidParameter"
  | .expectedTarget _ => "ExpectedTarget"
  | .invalidTarget .. => "InvalidTarget"
  | .unexpectedToken _ => "UnexpectedToken"
  | .invalidCommand => "InvalidCommand"
  | .notReady => "NotReady"
  | .operation .. => "Operation"

def reason : CommandError → String
  | .unknownVariable _ => "Unknown variable"
  | .unknownGlobal _ => "Unknown global"
  | .unknownCommand _ => "Unknown command"
  | .expectedParameters expected _ => "Expected " ++ toString expected ++ " parameters"
  | .invalidParameter parameter expectedType _ =>
      "Invalid value for parameter " ++ parameter ++ ": expected " ++ expectedType
  | .expectedTarget _ => "Expected target"
  | .invalidTarget expectedType _ => "Invalid target: expected " ++ expectedType
  | .unexpectedToken _ => "Unexpected token"
  | .invalidCommand => "Invalid command"
  | .notReady => "Command registry is not ready"
  | .operation fault _ => fault.message

def message (error : CommandError) : String :=
  match error.token? with
  | some token => error.reason ++ " '" ++ token.value ++ "'"
  | none => error.reason

def detail? (error : CommandError) : Option Json :=
  error.token?.map fun token =>
    let own := match error with
      | .expectedParameters expected _ => [("expected", .ofNat expected)]
      | .invalidParameter parameter expectedType _ =>
          [("parameter", .string parameter), ("expected_type", .string expectedType)]
      | .invalidTarget expectedType _ => [("expected_type", .string expectedType)]
      | .operation fault _ => [("message", .string fault.message)]
      | _ => []
    .record (own ++ [("token", token.toJson)])

def toJson (error : CommandError) : Json :=
  match error.detail? with
  | some detail => .record [("code", .string error.code), ("detail", detail)]
  | none => .record [("code", .string error.code)]

end CommandError

inductive Domain where
  | commands
  | sessionVariables
  | globals
  | types
  | converters
  | presenters
  deriving DecidableEq, Repr

namespace Domain

def all : List Domain := [commands, sessionVariables, globals, types, converters, presenters]

def name : Domain → String
  | commands => "Commands"
  | sessionVariables => "Variables"
  | globals => "Globals"
  | types => "Types"
  | converters => "Converters"
  | presenters => "Presenters"

def slug : Domain → String
  | commands => "commands"
  | sessionVariables => "variables"
  | globals => "globals"
  | types => "types"
  | converters => "converters"
  | presenters => "presenters"

end Domain

inductive RegistryError where
  | duplicate (domain : Domain) (name : String)
  | unknownType (name : String)
  | load (reason : String)
  | discovery (reason : String)
  deriving DecidableEq, Repr

namespace RegistryError

def code : RegistryError → String
  | duplicate .. => "Duplicate"
  | unknownType _ => "UnknownType"
  | load _ => "Load"
  | discovery _ => "Discovery"

def message : RegistryError → String
  | duplicate domain name => domain.name ++ " already contains '" ++ name ++ "'"
  | unknownType name => "Unknown type '" ++ name ++ "'"
  | load reason => "Loader failed: " ++ reason
  | discovery reason => "Discovery task failed: " ++ reason

def detail : RegistryError → Json
  | duplicate domain name => .record [("domain", .string domain.name), ("name", .string name)]
  | unknownType name => .record [("name", .string name)]
  | load reason => .record [("message", .string reason)]
  | discovery reason => .record [("message", .string reason)]

end RegistryError
end LiveConsole
