import LiveConsole.Number.Reading

/-! The arguments of the program: options that may stand before and after the subcommand, the
subcommand, and its own arguments. An argument after `--` is never an option. -/
namespace LiveConsole.CommandLine

structure Options where
  config : Option String
  verbose : Bool
  json : Bool
  cursor : Option Nat
  deriving DecidableEq, Repr

def Options.none : Options := ⟨.none, false, false, .none⟩

inductive Subcommand where
  | repl
  | run (lines : List String)
  | tokens (line : String)
  | hint (line : String) (cursor : Option Nat)
  | catalog
  | schema
  deriving DecidableEq, Repr

structure Request where
  config : Option String
  verbose : Bool
  json : Bool
  subcommand : Subcommand
  deriving DecidableEq, Repr

inductive SubcommandName where
  | repl
  | run
  | tokens
  | hint
  | catalog
  | schema
  deriving DecidableEq, Repr

def SubcommandName.of? (word : String) : Option SubcommandName :=
  [("repl", repl), ("run", run), ("tokens", tokens), ("hint", hint), ("catalog", catalog),
    ("schema", schema)].lookup word

def isOption (argument : String) : Bool :=
  match argument.toList with
  | '-' :: _ :: _ => true
  | _ => false

def isValue (argument : String) : Bool := !argument.isEmpty && !isOption argument

def offset? (text : String) : Option Nat :=
  let digits := match text.toList with
    | '+' :: rest => rest
    | chars => chars
  (Number.readNatural? digits).filter fun value => value < UInt64.size

namespace Options

def giveConfig? (options : Options) (path : String) : Option Options :=
  if options.config.isSome || path.isEmpty then .none else some { options with config := path }

def giveVerbose? (options : Options) : Option Options :=
  if options.verbose then .none else some { options with verbose := true }

def giveJson? (options : Options) : Option Options :=
  if options.json then .none else some { options with json := true }

def giveCursor? (options : Options) (text : String) : Option Options :=
  if options.cursor.isSome then .none
  else (offset? text).map fun cursor => { options with cursor := some cursor }

def giveLetters? (options : Options) : List Char → Option Options
  | [] => some options
  | 'v' :: rest => options.giveVerbose?.bind fun options => giveLetters? options rest
  | _ :: _ => .none

inductive Use where
  | done (options : Options)
  | value (put : String → Option Options)

def longUse? (options : Options) (hasCursor : Bool) (name : String) : Option Use :=
  if name = "verbose" then options.giveVerbose?.map .done
  else if name = "json" then options.giveJson?.map .done
  else if name = "config" then some (.value options.giveConfig?)
  else if name = "cursor" ∧ hasCursor then some (.value options.giveCursor?)
  else .none

def use? (options : Options) (hasCursor : Bool) (option : String) : Option Use :=
  match option.toList with
  | '-' :: '-' :: long =>
      let use := options.longUse? hasCursor (String.ofList (long.takeWhile (· != '=')))
      match long.dropWhile (· != '='), use with
      | [], use => use
      | _ :: attached, some (.value put) => (put (String.ofList attached)).map .done
      | _, _ => .none
  | '-' :: letters => (options.giveLetters? letters).map .done
  | _ => .none

end Options

def gather? (hasCursor : Bool) (options : Options) : List String → Option (Options × List String)
  | [] => some (options, [])
  | argument :: rest =>
      if argument = "--" then some (options, rest)
      else if isOption argument then
        match options.use? hasCursor argument, rest with
        | some (.done options), rest => gather? hasCursor options rest
        | some (.value put), value :: rest =>
            if isValue value then
              (put value).bind fun options => gather? hasCursor options rest
            else none
        | _, _ => none
      else (gather? hasCursor options rest).map fun (options, others) =>
        (options, argument :: others)

def subcommandOf? (name : SubcommandName) (cursor : Option Nat) (arguments : List String) :
    Option Subcommand :=
  match name, arguments with
  | .repl, [] => some .repl
  | .run, line :: lines => some (.run (line :: lines))
  | .tokens, [line] => some (.tokens line)
  | .hint, [line] => some (.hint line cursor)
  | .catalog, [] => some .catalog
  | .schema, [] => some .schema
  | _, _ => none

def requestOf? (ahead : Options) (name : SubcommandName) (arguments : List String) :
    Option Request := do
  let (options, others) ← gather? (name == .hint) .none arguments
  let subcommand ← subcommandOf? name options.cursor others
  some ⟨options.config.or ahead.config, ahead.verbose || options.verbose,
    ahead.json || options.json, subcommand⟩

def readFrom? (options : Options) : List String → Option Request
  | [] => some ⟨options.config, options.verbose, options.json, .repl⟩
  | argument :: rest =>
      match SubcommandName.of? argument with
      | some name => requestOf? options name rest
      | none =>
          if argument = "--" then
            if rest.isEmpty then some ⟨options.config, options.verbose, options.json, .repl⟩
            else none
          else if isOption argument then
            match options.use? false argument, rest with
            | some (.done options), rest => readFrom? options rest
            | some (.value put), value :: rest =>
                if isValue value then (put value).bind fun options => readFrom? options rest
                else none
            | _, _ => none
          else none

def Request.ofArguments? (arguments : List String) : Option Request := readFrom? .none arguments

end LiveConsole.CommandLine
