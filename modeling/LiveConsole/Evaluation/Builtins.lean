import LiveConsole.Engine

/-! What the built-in commands do with their operands. -/
namespace LiveConsole.Builtin

variable {σ : Type} [Host σ]

def place? (index : Int64) : Option Nat := index.toInt.toNat?

def element (host : σ) (operator : Token) (value : Value) (index : Int64) :
    Except CommandError Value :=
  let found := match value with
    | .list items => some ((place? index).bind fun i => items[i]?)
    | .string text =>
        some ((place? index).bind fun i => text.toList[i]?.map fun c => .string c.toString)
    | .object ref => some (Host.element? host ref index)
    | _ => none
  match found with
  | none => .error (.ofOperand .notIndexable (value.display host) operator)
  | some (some element) => .ok element
  | some none => .error (.ofOperand .indexOutOfRange (toString index.toInt) operator)

def counted? (count : Nat) : Option Value :=
  if (count : Int) ≤ Int64.maxValue.toInt then some (.int (Int64.ofNat count)) else none

def propertyOf? (types : TypeTable) (host : σ) (value : Value) (name : String) : Option Value :=
  match value with
  | .object ref => Host.property? host ref name
  | .list items =>
      if name = "count" ∨ name = "length" then counted? items.length else none
  | .string text =>
      if name = "length" then counted? text.length else none
  | .type ref =>
      if name = "name" then some (.string ref.name)
      else if name = "parent" then
        (types.lineage ref.tag)[1]?.map fun parent => .type (types.ref parent)
      else none
  | _ => none

def concatenated (host : σ) (values : List Value) : String :=
  String.join (values.map fun value => if value.isNull then "" else value.display host)

def variableLines (engine : Engine σ) : List String :=
  engine.registry.sessionVariables.map fun (name, value) =>
    engine.symbols.variableSigil.toString ++ name ++ " = " ++ value.display engine.host

def shortDescription (engine : Engine σ) (value : Value) : String :=
  let type := match engine.types.tagOf? value with
    | some tag => engine.types.name tag
    | none => "null"
  value.display engine.host ++ " (" ++ type ++ ")"

def showing (engine : Engine σ) (text : String) : Run σ Value :=
  ⟨.ok .null, engine, [.log text]⟩

def describing (engine : Engine σ) (value : Value) : Run σ Value :=
  let (lines, host) := engine.registry.present engine.host value
  let engine := engine.withHost host
  if lines.isEmpty then showing engine (shortDescription engine value)
  else showing engine ("\n".intercalate lines)

def assigning (engine : Engine σ) (operator : Token) (name value : Value) : Run σ Value :=
  let name := name.display engine.host
  if name.isEmpty then .fail (.ofOperand .emptyVariableName "" operator) engine
  else .ok value { engine with registry := engine.registry.setVariable name value }

def indexing (engine : Engine σ) (operator : Token) (value index : Value) : Run σ Value :=
  match index.int? with
  | none => .fail (.ofOperand .indexNotInteger (index.display engine.host) operator) engine
  | some index => ⟨element engine.host operator value index, engine, []⟩

def reading (engine : Engine σ) (operator : Token) (value name : Value) : Run σ Value :=
  let name := name.display engine.host
  match propertyOf? engine.types engine.host value name with
  | some found => .ok found engine
  | none => .fail (.ofOperand .unknownProperty name operator) engine

def withTwo (engine : Engine σ) (operator : Token) (arguments : List Value)
    (act : Value → Value → Run σ Value) : Run σ Value :=
  match arguments with
  | [first, second] => act first second
  | _ => .fail (.expectedParameters 2 operator) engine

def run (action : Builtin) (engine : Engine σ) (operator : Token) (arguments : List Value) :
    Run σ Value :=
  match action with
  | .literalTrue => .ok (.bool true) engine
  | .literalFalse => .ok (.bool false) engine
  | .literalNull => .ok .null engine
  | .concatenate => .ok (.string (concatenated engine.host arguments)) engine
  | .index => withTwo engine operator arguments (indexing engine operator)
  | .property => withTwo engine operator arguments (reading engine operator)
  | .help => showing engine (engine.registry.helpText none)
  | .usage =>
      let topic := match arguments.head? with
        | some topic => topic.display engine.host
        | none => ""
      showing engine (engine.registry.helpText (some topic))
  | .echo => .ok (arguments.head?.getD .null) engine
  | .setVariable => withTwo engine operator arguments (assigning engine operator)
  | .listVariables =>
      let lines := variableLines engine
      showing engine (if lines.isEmpty then "No variables" else "\n".intercalate lines)
  | .describe => describing engine (arguments.head?.getD .null)

end LiveConsole.Builtin
