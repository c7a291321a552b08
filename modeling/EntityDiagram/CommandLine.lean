import EntityDiagram.Diagram.Export

namespace EntityDiagram

/-- What a value on the command line is for. -/
inductive Setting
  | output
  | strategy
  | root
  | seed
  | iterations
  deriving DecidableEq, Repr

namespace Setting

def ofLetter? : Char → Option Setting
  | 'o' => some .output
  | 's' => some .strategy
  | 'r' => some .root
  | _ => none

def ofName? : String → Option Setting
  | "output" => some .output
  | "strategy" => some .strategy
  | "root" => some .root
  | "seed" => some .seed
  | "iterations" => some .iterations
  | _ => none

def name : Setting → String
  | output => "output"
  | strategy => "strategy"
  | root => "root"
  | seed => "seed"
  | iterations => "iterations"

end Setting

inductive UsageError
  | unexpected (argument : String)
  | missingValue (setting : Setting)
  | repeated (setting : Setting)
  | missingInput
  | unknownStrategy (name : String)
  | notACount (setting : Setting) (value : String)
  deriving DecidableEq, Repr

def UsageError.message : UsageError → String
  | unexpected argument => s!"unexpected argument '{argument}'"
  | missingValue setting => s!"a value is required for '--{setting.name}'"
  | repeated setting => s!"the argument '--{setting.name}' cannot be used more than once"
  | missingInput => "no schema file is given"
  | unknownStrategy name => s!"expected 'force' or 'angular', got '{name}'"
  | notACount setting value => s!"invalid value '{value}' for '--{setting.name}'"

inductive Argument
  | input (path : String)
  | value (setting : Setting) (text : String)
  | pretty
  | help
  deriving DecidableEq, Repr

namespace Argument

/-- A long name with its value behind `=`, or a name that stands by itself. -/
def ofName (name : List Char) : Except UsageError (Setting ⊕ Argument) :=
  let text := String.ofList name
  let key := String.ofList (name.takeWhile (· ≠ '='))
  if text = "pretty" then .ok (.inr .pretty)
  else if text = "help" then .ok (.inr .help)
  else
    match Setting.ofName? key with
    | none => .error (.unexpected ("--" ++ text))
    | some s =>
      match name.dropWhile (· ≠ '=') with
      | _ :: content => .ok (.inr (.value s (String.ofList content)))
      | [] => .ok (.inl s)

/-- A letter with the value that directly follows it, also behind `=`. -/
def ofLetter (letter : Char) (rest : List Char) : Except UsageError (Setting ⊕ Argument) :=
  match Setting.ofLetter? letter, rest with
  | some s, [] => .ok (.inl s)
  | some s, '=' :: content | some s, content => .ok (.inr (.value s (String.ofList content)))
  | none, _ =>
    if letter = 'h' then .ok (.inr .help)
    else .error (.unexpected (String.ofList ('-' :: letter :: rest)))

/-- The part that a text is, or the setting whose value comes next. -/
def ofText (text : String) : Except UsageError (Setting ⊕ Argument) :=
  match text.toList with
  | '-' :: '-' :: name => ofName name
  | '-' :: letter :: rest => ofLetter letter rest
  | _ => .ok (.inr (.input text))

/-- The parts of a command line; after `--` there are only files. -/
def split : List String → Except UsageError (List Argument)
  | [] => .ok []
  | "--" :: paths => .ok (paths.map .input)
  | text :: texts =>
    match ofText text with
    | .error e => .error e
    | .ok (.inr part) => (split texts).map (part :: ·)
    | .ok (.inl setting) =>
      match texts with
      | [] => .error (.missingValue setting)
      | content :: texts => (split texts).map (.value setting content :: ·)

end Argument

/-- A whole number of at most 64 bits in decimal digits, with an optional plus sign. -/
def readCount? (text : String) : Option Nat :=
  let digits := if text.toList.head? = some '+' then text.toList.tail else text.toList
  let value := digits.foldl (fun n c => 10 * n + (c.toNat - '0'.toNat)) 0
  if digits ≠ [] ∧ digits.all Char.isDigit ∧ value < UInt64.size then some value else none

/-- A diagram to be drawn: the file of its schema, and where and how its text is written. -/
structure Command where
  input : String
  /-- The file to write; without one the text is printed. -/
  output : Option String
  pretty : Bool
  options : Options

namespace Command

def only? (parts : List Argument) (setting : Setting) : Except UsageError (Option String) :=
  let values := parts.filterMap fun
    | .value s text => if s = setting then some text else none
    | _ => none
  match values with
  | [] => .ok none
  | [text] => .ok (some text)
  | _ => .error (.repeated setting)

def input? (parts : List Argument) : Except UsageError String :=
  let paths := parts.filterMap fun
    | .input path => some path
    | _ => none
  match paths with
  | [] => .error .missingInput
  | [path] => .ok path
  | _ :: path :: _ => .error (.unexpected path)

def readStrategy (text : Option String) : Except UsageError Strategy :=
  match text with
  | none => .ok .forces
  | some name =>
    match Strategy.ofName? name with
    | some s => .ok s
    | none => .error (.unknownStrategy name)

def readNumber (setting : Setting) (default : Nat) (text : Option String) :
    Except UsageError Nat :=
  match text with
  | none => .ok default
  | some digits =>
    match readCount? digits with
    | some n => .ok n
    | none => .error (.notACount setting digits)

/-- The command of the parts. Where no seed is given, `seed` from outside the line counts. -/
def ofParts (parts : List Argument) (seed : Option String) : Except UsageError Command := do
  let defaults : ForceOptions := {}
  let input ← input? parts
  let output ← only? parts .output
  let strategy ← readStrategy (← only? parts .strategy)
  let root ← only? parts .root
  let seed ← readNumber .seed defaults.seed.toNat ((← only? parts .seed).or seed)
  let iterations ← readNumber .iterations defaults.iterations (← only? parts .iterations)
  let forces := { defaults with seed := seed.toUInt64, iterations }
  return { input, output, pretty := parts.contains .pretty, options := { strategy, root, forces } }

/-- The diagram of a schema text, as the command asks for it. -/
def draw (c : Command) (text : String) : Except DiagramError String :=
  (Diagram.build text c.options).map fun d =>
    if c.pretty then d.toJson.pretty "" else d.toJson.compact

/-- The command of a command line, or nothing when it asks for help. -/
def ofArguments (texts : List String) (seed : Option String) :
    Except UsageError (Option Command) := do
  let parts ← Argument.split texts
  if parts.contains .help then return none
  return some (← ofParts parts seed)

def help : String :=
  "\n".intercalate [
    "Lay out a Prisma schema as an ERD graph and print it as JSON",
    "",
    "Usage: entity-diagram [OPTIONS] <INPUT>",
    "",
    "  -o, --output <OUTPUT>          Output file (default: stdout)",
    "  -s, --strategy <STRATEGY>      Layout strategy: force or angular [default: force]",
    "  -r, --root <ROOT>              Model in focus for the angular layout",
    "      --seed <SEED>              Seed of the force simulation [env: ENTITY_DIAGRAM_SEED]",
    "      --iterations <ITERATIONS>  Ticks of the force simulation",
    "      --pretty                   Pretty-print the JSON",
    "  -h, --help                     Print help"]

end Command

end EntityDiagram
