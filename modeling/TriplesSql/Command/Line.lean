import TriplesSql.Dialect

namespace TriplesSql.Command

structure UnfoldRequest where
  file : String
  dialect : Option Dialect
  config : Option String
  rule : Option String
  subject : Option String
  showAliases : Bool
  deriving DecidableEq, Repr

inductive Request where
  | unfold (r : UnfoldRequest)
  | validate (file : String)
  | help
  | version
  deriving DecidableEq, Repr

inductive Setting where
  | dialect
  | config
  | rule
  | subject
  deriving DecidableEq, Repr

inductive Switch where
  | setting (s : Setting)
  | aliases
  | help
  deriving DecidableEq, Repr

def Switch.ofName? : String → Option Switch
  | "dialect" => some (.setting .dialect)
  | "config" => some (.setting .config)
  | "triples-map" => some (.setting .rule)
  | "subject" => some (.setting .subject)
  | "aliases" => some .aliases
  | "help" => some .help
  | _ => none

/-- The option with a letter behind one hyphen. The letter that asks for help is not among them, as
it counts whatever stands behind it. -/
def Switch.ofLetter? : Char → Option Switch
  | 'd' => some (.setting .dialect)
  | 'c' => some (.setting .config)
  | 't' => some (.setting .rule)
  | 's' => some (.setting .subject)
  | _ => none

inductive Form where
  | endOfOptions
  | long (name : String) (value : Option String)
  | short (letter : Char) (rest : List Char)
  | plain
  deriving DecidableEq, Repr

def formOf (arg : String) : Form :=
  match arg.toList with
  | ['-', '-'] => .endOfOptions
  | '-' :: '-' :: cs =>
    match cs.span (· != '=') with
    | (name, []) => .long (String.ofList name) none
    | (name, _ :: value) => .long (String.ofList name) (some (String.ofList value))
  | '-' :: c :: cs => .short c cs
  | _ => .plain

def switch? : Form → Option (Switch × Option String)
  | .long name value => (Switch.ofName? name).map (·, value)
  | .short letter [] => (Switch.ofLetter? letter).map (·, none)
  | .short letter ('=' :: cs) => (Switch.ofLetter? letter).map (·, some (String.ofList cs))
  | .short letter cs => (Switch.ofLetter? letter).map (·, some (String.ofList cs))
  | _ => none

structure Given where
  file : Option String := none
  dialect : Option Dialect := none
  config : Option String := none
  rule : Option String := none
  subject : Option String := none
  showAliases : Bool := false

namespace Given

def isSet (g : Given) : Setting → Bool
  | .dialect => g.dialect.isSome
  | .config => g.config.isSome
  | .rule => g.rule.isSome
  | .subject => g.subject.isSome

def exactDialect? (name : String) : Option Dialect := Dialect.all.find? (·.name = name)

def set? (g : Given) (s : Setting) (value : String) : Option Given :=
  if g.isSet s then none
  else match s with
    | .dialect => (exactDialect? value).map fun d => { g with dialect := some d }
    | .config => if value.isEmpty then none else some { g with config := some value }
    | .rule => some { g with rule := some value }
    | .subject => some { g with subject := some value }

def addFile? (g : Given) (path : String) : Option Given :=
  if g.file.isSome || path.isEmpty then none else some { g with file := some path }

def request? (g : Given) : Option UnfoldRequest := do
  if g.subject.isSome && g.rule.isNone then none
  return {
    file := ← g.file
    dialect := g.dialect
    config := g.config
    rule := g.rule
    subject := g.subject
    showAliases := g.showAliases }

def read (g : Given) : List String → Option Request
  | [] => g.request?.map .unfold
  | arg :: args =>
    match formOf arg with
    | .plain => (g.addFile? arg).bind fun g => g.read args
    | .endOfOptions => (args.foldlM addFile? g).bind fun g => g.request?.map .unfold
    | .short 'h' _ => some .help
    | form =>
      match switch? form with
      | none => none
      | some (.help, none) => some .help
      | some (.aliases, none) =>
        if g.showAliases then none else { g with showAliases := true }.read args
      | some (.help, some _) | some (.aliases, some _) => none
      | some (.setting s, some value) => (g.set? s value).bind fun g => g.read args
      | some (.setting s, none) =>
        match args with
        | [] => none
        | value :: args =>
          if formOf value = .plain then (g.set? s value).bind fun g => g.read args else none

end Given

def readValidate (file : Option String) : List String → Option Request
  | [] => file.map .validate
  | arg :: args =>
    match formOf arg with
    | .plain => if file.isSome || arg.isEmpty then none else readValidate (some arg) args
    | .endOfOptions =>
      match file.toList ++ args with
      | [path] => if path.isEmpty then none else some (.validate path)
      | _ => none
    | .long "help" none => some .help
    | .short 'h' _ => some .help
    | _ => none

def readHelp : List String → Option Request
  | [] | ["unfold"] | ["validate"] | ["help"] => some .help
  | _ => none

/-- Reads a command line. Nothing means that it cannot be understood. -/
def Request.ofArguments? : List String → Option Request
  | [] => none
  | "unfold" :: args => ({} : Given).read args
  | "validate" :: args => readValidate none args
  | "help" :: args => readHelp args
  | arg :: _ =>
    match formOf arg with
    | .long "help" none => some .help
    | .long "version" none => some .version
    | .short 'h' _ => some .help
    | .short 'V' _ => some .version
    | _ => none

end TriplesSql.Command
