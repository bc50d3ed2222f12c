/-!
The command line: which commands there are, and how arguments are read. Options
stand in any order, with their values behind them or behind an equals sign, and
each at most once; what follows two dashes is no option. Reading stops at a
request for help, or at the first argument that does not fit.
-/

namespace DossierCompliance

structure DryRunArguments where
  dossier : String
  target : String
  rules : Option String
  actor : Option String
  role : Option String
  json : Bool

inductive Command where
  | checkRules (path : String)
  | listRules (rules : Option String) (trigger : Option String)
  | dryRun (arguments : DryRunArguments)

def Command.paths : Command → List String
  | .checkRules path => [path]
  | .listRules rules _ => rules.toList
  | .dryRun a => a.dossier :: a.rules.toList

/-- Why arguments name no command. -/
inductive Usage where
  | help
  | version
  | misuse
  deriving DecidableEq

namespace Command

/-- What one argument looks like. -/
inductive Shape where
  /-- Two dashes alone. -/
  | divider
  /-- A long option, perhaps with a value behind an equals sign. -/
  | long (name : String) (attached : Option String)
  /-- Short options behind one dash. -/
  | short (letters : List Char)
  | plain
  deriving DecidableEq

def shape (argument : String) : Shape :=
  match argument.toList with
  | ['-', '-'] => .divider
  | '-' :: '-' :: cs =>
    let name := String.ofList (cs.takeWhile (· != '='))
    match cs.dropWhile (· != '=') with
    | [] => .long name none
    | _ :: value => .long name (some (String.ofList value))
  | '-' :: c :: cs => .short (c :: cs)
  | _ => .plain

/-- Reads the short options that stand before and behind every command. -/
def readShort (hasVersion : Bool) : List Char → Except Usage Unit
  | [] => .ok ()
  | 'v' :: rest => readShort hasVersion rest
  | 'h' :: _ => .error .help
  | 'V' :: _ => .error (if hasVersion then .version else .misuse)
  | _ => .error .misuse

/-- Reads a long option that stands before and behind every command. -/
def readCommon (hasVersion : Bool) (name : String) (attached : Option String) :
    Except Usage Unit :=
  match name, attached with
  | "verbose", none => .ok ()
  | "help", none => .error .help
  | "version", none => .error (if hasVersion then .version else .misuse)
  | _, _ => .error .misuse

/-! ### Names of commands -/

def subcommands : List String → List String
  | [] => ["rules", "dry-run", "help"]
  | ["rules"] => ["check", "list", "help"]
  | _ => []

/-- Help is asked for by the names of a command. -/
def readHelp (path : List String) : List String → Usage
  | [] => .help
  | name :: rest =>
    if (subcommands path).contains name then readHelp (path ++ [name]) rest else .misuse

/-- The command below a command that arguments begin with, and what follows it. -/
def readSubcommand (path : List String) : List String → Except Usage (String × List String)
  | [] => .error .misuse
  | argument :: rest =>
    if (subcommands path).contains argument then
      if argument == "help" then .error (readHelp path rest) else .ok (argument, rest)
    else match shape argument with
      | .divider | .plain => .error .misuse
      | .long name attached => do
        readCommon path.isEmpty name attached
        readSubcommand path rest
      | .short letters => do
        readShort path.isEmpty letters
        readSubcommand path rest

/-! ### Arguments of a command -/

/-- What stands behind an option: nothing, any text, or a path, which is not empty. -/
inductive Expects where
  | nothing
  | text
  | path

/-- The options of a command and whether it takes a path by itself. -/
structure Form where
  options : List (String × Expects)
  takesOperand : Bool

/-- The options given so far, a switch with an empty value, and the operand. -/
structure Given where
  options : List (String × String)
  operand : Option String

namespace Given

def value? (g : Given) (name : String) : Option String :=
  (g.options.find? fun entry => entry.1 == name).map (·.2)

def add (g : Given) (expects : Expects) (name value : String) : Except Usage Given :=
  match expects, value with
  | .path, "" => .error .misuse
  | _, _ =>
    if (g.value? name).isSome then .error .misuse
    else .ok { g with options := g.options ++ [(name, value)] }

def addOperand (form : Form) (g : Given) (value : String) : Except Usage Given :=
  if !form.takesOperand || g.operand.isSome || value.isEmpty then .error .misuse
  else .ok { g with operand := some value }

end Given

def Form.expects? (form : Form) (name : String) : Option Expects :=
  (form.options.find? fun entry => entry.1 == name).map (·.2)

def readGiven (form : Form) (g : Given) : List String → Except Usage Given
  | [] => .ok g
  | argument :: rest =>
    match shape argument with
    | .divider => rest.foldlM (Given.addOperand form) g
    | .short letters => do
      readShort false letters
      readGiven form g rest
    | .plain => do
      let g ← g.addOperand form argument
      readGiven form g rest
    | .long name attached =>
      match form.expects? name with
      | none => do
        readCommon false name attached
        readGiven form g rest
      | some .nothing =>
        if attached.isSome then .error .misuse
        else do
          let g ← g.add .nothing name ""
          readGiven form g rest
      | some expects =>
        match attached, rest with
        | some value, rest => do
          let g ← g.add expects name value
          readGiven form g rest
        | none, value :: rest =>
          if shape value == .plain then do
            let g ← g.add expects name value
            readGiven form g rest
          else .error .misuse
        | none, [] => .error .misuse

def readForm (form : Form) (arguments : List String) : Except Usage Given :=
  readGiven form ⟨[], none⟩ arguments

def required {α : Type} : Option α → Except Usage α
  | some a => .ok a
  | none => .error .misuse

def checkForm : Form where
  options := []
  takesOperand := true

def listForm : Form where
  options := [("rules", .path), ("trigger", .text)]
  takesOperand := false

def dryRunForm : Form where
  options := [("dossier", .path), ("target", .text), ("rules", .path), ("actor", .text),
    ("role", .text), ("json", .nothing)]
  takesOperand := false

def readDryRun (arguments : List String) : Except Usage Command := do
  let g ← readForm dryRunForm arguments
  let dossier ← required (g.value? "dossier")
  let target ← required (g.value? "target")
  if (g.value? "role").isSome && (g.value? "actor").isNone then throw .misuse
  return .dryRun {
    dossier, target
    rules := g.value? "rules"
    actor := g.value? "actor"
    role := g.value? "role"
    json := (g.value? "json").isSome }

def readRules (arguments : List String) : Except Usage Command := do
  match ← readSubcommand ["rules"] arguments with
  | ("check", rest) => return .checkRules (← required (← readForm checkForm rest).operand)
  | (_, rest) =>
    let g ← readForm listForm rest
    return .listRules (g.value? "rules") (g.value? "trigger")

def ofArguments (arguments : List String) : Except Usage Command := do
  match ← readSubcommand [] arguments with
  | ("rules", rest) => readRules rest
  | (_, rest) => readDryRun rest

end Command

end DossierCompliance
