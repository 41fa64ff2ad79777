import ScriptFlow.Worker.Process

/-!
# The command line of a worker

A worker program takes the path of a configuration file and a switch for more lines in the log. Options have a long and a short form; a long one may be cut
short as long as it is clear which is meant, a value may be joined to its option, and short switches may be joined to each other. Anything else is a
mistake.

A wrong configuration ends the program with a line in the log and the exit code 1. A key press that interrupts it is an orderly end.
-/

namespace ScriptFlow

/-- The options of the program. -/
inductive CommandOption where
  | help
  | config
  | verbose
  deriving DecidableEq, Repr

namespace CommandOption

/-- The forms of an option. -/
def forms : CommandOption → List String
  | help => ["-h", "--help"]
  | config => ["--config", "-c"]
  | verbose => ["-v", "--verbose"]

def all : List CommandOption := [help, config, verbose]

def takesValue : CommandOption → Bool
  | config => true
  | _ => false

/-- All forms with their options. -/
def table : List (String × CommandOption) := all.flatMap fun o => o.forms.map fun f => (f, o)

end CommandOption

/-- An argument, before it is known what it is for. -/
inductive CommandWord where
  /-- an option, in which form, and what is joined to it -/
  | option (o : CommandOption) (short : Bool) (joined : Option (List Char))
  | unknownOption
  | ambiguous
  /-- all that follows is plain -/
  | endOfOptions
  | plain (s : String)

namespace CommandWord

/-- Cuts at the first equals sign. -/
def cut (s : List Char) : Option (List Char × List Char) :=
  match s.dropWhile (· != '=') with
  | _ :: value => some (s.takeWhile (· != '='), value)
  | [] => none

/-- Is the text a negative number? -/
def isNegativeNumber : List Char → Bool
  | '-' :: rest =>
    let whole := rest.takeWhile Char.isDigit
    match rest.dropWhile Char.isDigit with
    | [] => !whole.isEmpty
    | '.' :: fraction => !fraction.isEmpty && fraction.all Char.isDigit
    | _ => false
  | _ => false

/-- The options that an abbreviation or a joined form can mean. -/
def candidates (s : List Char) : List CommandWord :=
  if "--".toList.isPrefixOf s then
    let (name, joined) := match cut s with
      | some (name, value) => (name, some value)
      | none => (s, none)
    CommandOption.table.filterMap fun (f, o) => if name.isPrefixOf f.toList then some (.option o false joined) else none
  else
    CommandOption.table.filterMap fun (f, o) =>
      if f.toList == s.take 2 then some (.option o true (some (s.drop 2)))
      else if s.isPrefixOf f.toList then some (.option o false none)
      else none

/-- Reads an argument that starts with a hyphen and more. -/
def ofHyphenated (text : String) (s : List Char) : CommandWord :=
  let exact (name : List Char) (joined : Option (List Char)) : Option CommandWord :=
    (CommandOption.table.lookup (String.ofList name)).map fun o => .option o (!("--".toList.isPrefixOf name)) joined
  let whole := exact s none
  let parted := (cut s).bind fun (name, value) => exact name (some value)
  match whole.orElse fun _ => parted with
  | some w => w
  | none =>
    match candidates s with
    | [w] => w
    | [] => if isNegativeNumber s || s.contains ' ' then .plain text else .unknownOption
    | _ => .ambiguous

def ofText (text : String) : CommandWord :=
  match text.toList with
  | ['-', '-'] => .endOfOptions
  | '-' :: c :: rest => ofHyphenated text ('-' :: c :: rest)
  | _ => .plain text

/-- Reads the arguments; after the end of the options all are plain. -/
def ofTexts : List String → List CommandWord
  | [] => []
  | s :: rest =>
    match ofText s with
    | .endOfOptions => .endOfOptions :: rest.map .plain
    | w => w :: ofTexts rest

end CommandWord

/-- What the arguments ask for. -/
inductive CommandLine where
  | help
  | mistaken
  | work (config : Option String) (verbose : Bool)
  deriving DecidableEq, Repr

namespace CommandLine

/-- What has been read so far. -/
structure Reading where
  config : Option String := none
  verbose : Bool := false
  /-- is something left that nothing takes? -/
  leftovers : Bool := false

/-- Short forms joined to each other. -/
structure Cluster where
  /-- the switches, in order -/
  switches : List CommandOption := []
  /-- the configuration at the end, perhaps with its value -/
  config : Option (Option (List Char)) := none

/-- Reads what is joined to a short form; nothing if it holds no form. -/
def cluster? (o : CommandOption) : List Char → Option Cluster
  | [] => some (if o.takesValue then { config := some none } else { switches := [o] })
  | c :: rest =>
    if o.takesValue then some { config := some (some (c :: rest)) }
    else
      match CommandOption.table.lookup (String.ofList ['-', c]) with
      | none => none
      | some next => (cluster? next rest).map fun k => { k with switches := o :: k.switches }

/-- Does what switches say. -/
def apply (r : Reading) : List CommandOption → Except CommandLine Reading
  | [] => .ok r
  | .help :: _ => .error .help
  | _ :: rest => apply { r with verbose := true } rest

/-- Sets the configuration to a text. -/
def withConfig (r : Reading) (value : String) : Reading := { r with config := some value }

/-- Takes the arguments in order; `waiting` holds the switches joined to an option whose value has not come yet. -/
def take (r : Reading) (waiting : Option (List CommandOption)) : List CommandWord → Except CommandLine Reading
  | [] => if waiting.isSome then .error .mistaken else .ok r
  | w :: rest =>
    match waiting, w with
    | some switches, .plain value => do take (withConfig (← apply r switches) value) none rest
    | some switches, .endOfOptions => take r (some switches) rest
    | some _, _ => .error .mistaken
    | none, .option .config _ none => take r (some []) rest
    | none, .option .config _ (some value) => take (withConfig r (String.ofList value)) none rest
    | none, .option o _ none => do take (← apply r [o]) none rest
    | none, .option _ false (some _) | none, .option _ true (some []) => .error .mistaken
    | none, .option o true (some joined) =>
      match cluster? o joined with
      | none => .error .mistaken
      | some { switches := switches, config := none } => do take (← apply r switches) none rest
      | some { switches := switches, config := some none } => take r (some switches) rest
      | some { switches := switches, config := some (some value) } => do
        take (withConfig (← apply r switches) (String.ofList value)) none rest
    | none, .ambiguous => .error .mistaken
    | none, _ => take { r with leftovers := true } none rest

def isAmbiguous : CommandWord → Bool
  | .ambiguous => true
  | _ => false

/-- Reads the arguments of the program. -/
def read (args : List String) : CommandLine :=
  let words := CommandWord.ofTexts args
  if words.any isAmbiguous then .mistaken
  else
    match take {} none words with
    | .error c => c
    | .ok r => if r.leftovers then .mistaken else .work r.config r.verbose

/-- What a program has shown and how it ended. -/
structure Report where
  seen : Sightings := {}
  printed : String := ""
  exit : Except Fault Nat

/-- What is printed after a key press. -/
def interruptedText : String := "\nWorker interrupted by user.\n"

/-- The end of a program whose work has ended. -/
def conclude (seen : Sightings) : Except Fault Unit → Report
  | .ok () => { seen := seen, exit := .ok 0 }
  | .error (.error .configuration m) => { seen := seen.line .error ("Invalid configuration: " ++ m), exit := .ok 1 }
  | .error (.error .interrupt _) => { seen := seen, printed := interruptedText, exit := .ok 0 }
  | .error e => { seen := seen, exit := .error e }

/-- Runs the program. -/
def run (s : Surroundings) (plan : EnginePlan) (args : List String) : Report :=
  match read args with
  | .help => { exit := .ok 0 }
  | .mistaken => { exit := .ok 2 }
  | .work path _ =>
    match WorkerConfig.load s path with
    | .error e => conclude {} (.error e)
    | .ok config =>
      let (seen, ended) := ({ surroundings := s, config := some config, plan := plan } : WorkerProcess).run
      conclude seen (ended.getD (.ok ()))

end CommandLine

end ScriptFlow
