/-
  The arguments of the command line.

  Arguments are taken one after the other, and the first that asks for help or that fits nowhere ends
  the reading.  An option stands before its value or is joined to it by an equals sign, and is given
  at most once; behind two dashes that stand alone everything is an operand.
-/
import SyntheticTables.Decimal.Reading
import SyntheticTables.Settings

namespace SyntheticTables.CommandLine

/-! ## Forms -/

/-- What is done in place of a command. -/
inductive Detour where
  | help
  | version
  /-- The arguments do not fit. -/
  | misuse
  deriving Repr, DecidableEq, Inhabited

/-- An argument by its form. -/
inductive Argument where
  /-- Two dashes alone. -/
  | endOfOptions
  | long (name : String) (value : Option String)
  /-- Letters behind one dash; the first decides. -/
  | short (letter : Char)
  | operand (text : String)
  deriving Repr, DecidableEq, Inhabited

/-- An argument by its form.  A dash alone is an operand, and an empty text is one, too. -/
def Argument.ofString (s : String) : Argument :=
  match s.toList with
  | ['-', '-'] => .endOfOptions
  | '-' :: '-' :: body =>
    .long (String.ofList (body.takeWhile (· ≠ '=')))
      (match body.dropWhile (· ≠ '=') with
        | [] => none
        | _ :: value => some (String.ofList value))
  | '-' :: letter :: _ => .short letter
  | _ => .operand s

/-! ## Reading -/

/-- Takes a text into a record, unless it is no value for it. -/
abbrev Intake (ρ : Type) := String → Option (ρ → ρ)

/-- A record that is being read, with what may still be given and what has to be. -/
structure Draft (ρ : Type) where
  record : ρ
  /-- The options that can still be given. -/
  options : List (String × Intake ρ)
  /-- The operands that are still to come. -/
  operands : List (Intake ρ)

namespace Draft

variable {ρ : Type}

/-- Takes a value into the record, or finds that it is none. -/
def take (d : Draft ρ) (intake : Intake ρ) (text : String) : Except Detour (Draft ρ) :=
  match intake text with
  | some put => .ok { d with record := put d.record }
  | none => .error .misuse

/-- Takes the value of an option, which cannot be given again. -/
def option (d : Draft ρ) (name value : String) : Except Detour (Draft ρ) :=
  match d.options.find? (·.1 = name) with
  | none => .error .misuse
  | some entry => { d with options := d.options.filter (·.1 ≠ name) }.take entry.2 value

/-- Takes an operand, if one is still to come. -/
def operand (d : Draft ρ) (text : String) : Except Detour (Draft ρ) :=
  match d.operands with
  | [] => .error .misuse
  | intake :: rest => { d with operands := rest }.take intake text

/-- Takes arguments in order.  The value of an option that stands by itself has to look like an
    operand. -/
def read (d : Draft ρ) : List String → Except Detour (Draft ρ)
  | [] => .ok d
  | first :: rest =>
    match Argument.ofString first, rest with
    | .endOfOptions, rest => rest.foldlM operand d
    | .operand text, rest => do read (← d.operand text) rest
    | .short 'h', _ | .long "help" none, _ => .error .help
    | .short _, _ => .error .misuse
    | .long name (some value), rest => do read (← d.option name value) rest
    | .long _ none, [] => .error .misuse
    | .long name none, value :: rest =>
      match Argument.ofString value with
      | .operand text => do read (← d.option name text) rest
      | _ => .error .misuse

/-- The record once all operands are there. -/
def finish (d : Draft ρ) : Except Detour ρ :=
  if d.operands.isEmpty then .ok d.record else .error .misuse

end Draft

/-! ## Values -/

/-- The value of an option from a function that reads it. -/
def valued {ρ α : Type} (read : String → Option α) (put : α → ρ → ρ) : Intake ρ :=
  fun s => (read s).map put

/-- A path, which is not empty. -/
def path? (s : String) : Option String := if s = "" then none else some s

/-- One of some names. -/
def choice? {α : Type} (names : List (String × α)) (s : String) : Option α :=
  (names.find? (·.1 = s)).map (·.2)

/-- A number of attempts, which may have a sign although it is not negative. -/
def attempts? (s : String) : Option UInt32 :=
  match Text.int? s.toList with
  | some i => if 0 ≤ i && i < 0x100000000 then some i.toNat.toUInt32 else none
  | none => none

/-! ## Commands -/

/-- The arguments of a run: what to read, and what the command line settles itself. -/
structure GenerateArgs where
  /-- The file of the configuration. -/
  config : String := ""
  settingsFile : Option String := none
  /-- What the command line says itself; it goes before the settings file. -/
  flags : Settings := {}
  deriving Inhabited

/-- What a schema describes. -/
inductive SchemaTarget where
  | config
  | package
  deriving Repr, DecidableEq, Inhabited

/-- The arguments of a request for a schema. -/
structure SchemaArgs where
  target : SchemaTarget := .config
  /-- The file that the schema goes to; without one it is printed. -/
  out : Option String := none
  deriving Inhabited

/-- What a command line asks for. -/
inductive Command where
  | generate (args : GenerateArgs)
  | schema (args : SchemaArgs)
  deriving Inhabited

/-- A setting that the command line can give. -/
def setting {α : Type} (name : String) (read : String → Option α)
    (put : α → Settings → Settings) : String × Intake GenerateArgs :=
  (name, valued read fun a args => { args with flags := put a args.flags })

/-- The arguments of a run before any is read.  The form of log messages is checked and then does not
    matter, because a run leaves its log empty. -/
def GenerateArgs.draft : Draft GenerateArgs where
  record := {}
  options := [
    ("settings", valued path? fun p args => { args with settingsFile := some p }),
    setting "seed" Text.uint64? fun a s => { s with seed := some a },
    setting "locale" some fun a s => { s with locale := some a },
    setting "max-unique-attempts" attempts? fun a s => { s with maxUniqueAttempts := some a },
    setting "optional-probability" (fun s => Decimal.anyFloat? s.toList) fun a s =>
      { s with optionalProbability := some a },
    setting "missing-style" (choice? MissingStyle.names) fun a s =>
      { s with missingStyle := some a },
    setting "assets-dir" path? fun a s => { s with assetsDir := some a },
    setting "out" path? fun a s => { s with outDir := some a },
    setting "format" (choice? ExportFormat.names) fun a s => { s with format := some a },
    ("log-format", valued (choice? [("text", ()), ("json", ())]) fun _ args => args)]
  operands := [valued path? fun p args => { args with config := p }]

/-- The arguments of a request for a schema before any is read. -/
def SchemaArgs.draft : Draft SchemaArgs where
  record := {}
  options := [
    ("target", valued (choice? [("config", .config), ("package", .package)]) fun a args =>
      { args with target := a }),
    ("out", valued path? fun p args => { args with out := some p })]
  operands := []

/-- Reads the arguments of a command. -/
def Draft.ofArguments {ρ : Type} (d : Draft ρ) (args : List String) : Except Detour ρ := do
  (← d.read args).finish

/-- What can be asked for help on. -/
def topics : List String := ["generate", "schema", "help"]

/-- Help on all, or on one topic that there is; anything else is a misuse. -/
def help : List String → Detour
  | [] => .help
  | [topic] => if topics.contains topic then .help else .misuse
  | _ => .misuse

/-- Reads a command line: the first argument decides which arguments the others are. -/
def Command.ofArguments : List String → Except Detour Command
  | [] => .error .misuse
  | "generate" :: rest => (GenerateArgs.draft.ofArguments rest).map .generate
  | "schema" :: rest => (SchemaArgs.draft.ofArguments rest).map .schema
  | "help" :: rest => .error (help rest)
  | first :: _ =>
    .error <| match Argument.ofString first with
      | .long "help" none | .short 'h' => .help
      | .long "version" none | .short 'V' => .version
      | _ => .misuse

end SyntheticTables.CommandLine
