/-! Command lines: what may stand on one, and how its words are matched with that. -/

namespace LiveBoard.Cli

/-- Why a text cannot be the value of an argument. -/
inductive ValueFault where
  | empty
  | unknown (message : String)
  deriving DecidableEq

/-- A check of the text that is given for an argument. -/
abbrev ValueCheck := String → Except ValueFault Unit

namespace ValueCheck

/-- Any text will do. -/
def any : ValueCheck := fun _ => .ok ()

/-- Any text but the empty one will do. -/
def nonempty : ValueCheck := fun text => if text.isEmpty then .error .empty else .ok ()

/-- What can be read will do; the message says why another text cannot. -/
def readable {α : Type} (parse : String → Except String α) : ValueCheck := fun text =>
  (parse text).map (fun _ => ()) |>.mapError .unknown

end ValueCheck

/-- What an argument is. -/
inductive Role where
  /-- It stands for itself. -/
  | flag
  /-- A value comes with it. -/
  | option (check : ValueCheck)
  /-- It is a value, known by its place. -/
  | positional (check : ValueCheck)
  | help
  | version

/-- An argument of a command. -/
structure Argument where
  name : String
  letter : Option Char
  role : Role

namespace Argument

/-- What stands for the value of an argument in messages. -/
def placeholder (argument : Argument) : String :=
  "<" ++ (argument.name.map fun c => if c = '-' then '_' else c.toUpper) ++ ">"

/-- An argument as messages name it. -/
def shown (argument : Argument) : String :=
  match argument.role with
  | .flag | .help | .version => "--" ++ argument.name
  | .option _ => "--" ++ argument.name ++ " " ++ argument.placeholder
  | .positional _ => argument.placeholder

/-- Whether an argument is known by its place. -/
def isPositional (argument : Argument) : Bool :=
  match argument.role with
  | .positional _ => true
  | _ => false

/-- The check of the value of an argument, if it has one. -/
def check? (argument : Argument) : Option ValueCheck :=
  match argument.role with
  | .option check | .positional check => some check
  | .flag | .help | .version => none

end Argument

/-- What may stand on a command line: a command, its arguments, and the commands below it. -/
structure Usage where
  name : String
  about : String
  arguments : List Argument
  /-- The pairs of arguments that exclude each other. -/
  exclusive : List (String × String)
  commands : List Usage
  needsCommand : Bool

/-- Why the words of a command line do not match its usage. -/
inductive UsageFault where
  | unexpected (word : String)
  | unknownCommand (word : String)
  | valueMissing (argument : String)
  | valueUnwanted (argument value : String)
  | invalidValue (argument value message : String)
  | repeated (argument : String)
  | exclusive (argument other : String)
  | argumentsMissing (arguments : List String)
  | commandMissing (path : String)
  deriving DecidableEq

/-- The message of a fault. -/
def UsageFault.message : UsageFault → String
  | .unexpected word => "unexpected argument '" ++ word ++ "' found"
  | .unknownCommand word => "unrecognized subcommand '" ++ word ++ "'"
  | .valueMissing argument => "a value is required for '" ++ argument ++ "' but none was supplied"
  | .valueUnwanted argument value =>
    "unexpected value '" ++ value ++ "' for '" ++ argument ++ "' found; no more were expected"
  | .invalidValue argument value message =>
    "invalid value '" ++ value ++ "' for '" ++ argument ++ "': " ++ message
  | .repeated argument => "the argument '" ++ argument ++ "' cannot be used multiple times"
  | .exclusive argument other =>
    "the argument '" ++ argument ++ "' cannot be used with '" ++ other ++ "'"
  | .argumentsMissing arguments =>
    "the following required arguments were not provided:" ++
      String.join (arguments.map ("\n  " ++ ·))
  | .commandMissing path => "'" ++ path ++ "' requires a subcommand but one was not provided"

/-- Why no command is carried out. -/
inductive Stop where
  | fault (fault : UsageFault)
  /-- What a command is about is shown, as was asked for or for want of more words. -/
  | help (about : String) (asked : Bool)
  | version
  deriving DecidableEq

/-- The commands that a command line names, and the values it gives, the innermost ones first. -/
structure Matched where
  path : List String
  values : List (String × Option String)
  deriving DecidableEq

namespace Matched

/-- The value given for an argument; the innermost command has the last word. -/
def text? (matched : Matched) (name : String) : Option String :=
  (matched.values.lookup name).join

/-- Whether an argument is given. -/
def has (matched : Matched) (name : String) : Bool := (matched.values.lookup name).isSome

end Matched

/-- The words of one command as far as they are read. -/
structure Reading where
  /-- The arguments found, in the order of the words. -/
  found : List (Argument × Option String)
  /-- The argument found last, whose value is not checked or not even seen yet. -/
  pending : Option (Argument × Option String)
  /-- The number of values known by their place. -/
  placed : Nat
  /-- Whether every further word is a value. -/
  onlyValues : Bool

namespace Reading

/-- No word is read yet. -/
def start : Reading := ⟨[], none, 0, false⟩

/-- The argument that the next word is the value of, if any is waiting. -/
def awaiting? (reading : Reading) : Option Argument :=
  match reading.pending with
  | some (argument, none) => if reading.onlyValues then none else some argument
  | _ => none

/-- Whether the next word may be a command. -/
def isOpen (reading : Reading) : Bool := !reading.onlyValues && reading.awaiting?.isNone

/-- The argument of a name, if it is found. -/
def argument? (reading : Reading) (name : String) : Option Argument :=
  (reading.found.find? (·.1.name = name)).map (·.1)

/-- Note an argument with its value. -/
def record (reading : Reading) (argument : Argument) (value : Option String) :
    Except UsageFault Reading := do
  -- The faults of one argument are looked for in this order.
  if argument.check?.isSome && value.isNone then throw (.valueMissing argument.shown)
  if (reading.argument? argument.name).isSome then throw (.repeated argument.shown)
  match argument.check?, value with
  | some check, some value =>
    match check value with
    | .error .empty => throw (.valueMissing argument.shown)
    | .error (.unknown message) => throw (.invalidValue argument.shown value message)
    | .ok () => pure ()
  | _, _ => pure ()
  return { reading with found := reading.found ++ [(argument, value)] }

/-- Note the argument whose value is not checked yet. -/
def settle (reading : Reading) : Except UsageFault Reading :=
  match reading.pending with
  | none => .ok reading
  | some (argument, value) => { reading with pending := none }.record argument value

/-- Take in an option with the value attached to it, or let it wait for one. -/
def assign (reading : Reading) (argument : Argument) (value : Option String) :
    Except UsageFault Reading := do
  let reading ← reading.settle
  match value with
  | some value => reading.record argument value
  | none => return { reading with pending := some (argument, none) }

/-- The values found, by the names of their arguments. -/
def values (reading : Reading) : List (String × Option String) :=
  reading.found.map fun (argument, value) => (argument.name, value)

end Reading

namespace Usage

/-- The arguments known by their place. -/
def positionals (usage : Usage) : List Argument := usage.arguments.filter (·.isPositional)

/-- The argument that is not known by its place and that a test singles out. -/
def named? (usage : Usage) (test : Argument → Bool) : Option Argument :=
  usage.arguments.find? fun argument => !argument.isPositional && test argument

/-- The command of a name. -/
def command? (usage : Usage) (name : String) : Option Usage := usage.commands.find? (·.name = name)

/-- Take in an argument without a value. -/
def raise (usage : Usage) (argument : Argument) (reading : Reading) : Except Stop Reading := do
  let reading ← reading.settle.mapError .fault
  match argument.role with
  | .help => throw (.help usage.about true)
  | .version => throw .version
  | .flag | .option _ | .positional _ => (reading.record argument none).mapError .fault

/-- Read a word that spells out the name of an argument. -/
def readName (usage : Usage) (name : String) (value : Option String) (reading : Reading) :
    Except Stop Reading :=
  match usage.named? (·.name = name) with
  | none => .error (.fault (.unexpected ("--" ++ name)))
  | some argument =>
    match argument.check?, value with
    | some _, value => (reading.assign argument value).mapError .fault
    | none, some value => .error (.fault (.valueUnwanted argument.shown value))
    | none, none => usage.raise argument reading

/-- Read the letters of arguments; the first that takes a value takes all that is left. -/
def readLetters (usage : Usage) (reading : Reading) : List Char → Except Stop Reading
  | [] => .ok reading
  | letter :: rest =>
    match usage.named? (·.letter = some letter) with
    | none => .error (.fault (.unexpected (String.ofList ['-', letter])))
    | some argument =>
      match argument.check?, rest with
      | some _, [] => (reading.assign argument none).mapError .fault
      -- An equals sign between a letter and its value is no part of the value.
      | some _, '=' :: value | some _, value =>
        (reading.assign argument (some (String.ofList value))).mapError .fault
      | none, rest => do usage.readLetters (← usage.raise argument reading) rest

/-- The fault of a word for which there is no place. -/
def misplaced (usage : Usage) (reading : Reading) (word : String) : UsageFault :=
  if reading.onlyValues && (usage.command? word).isSome then .unexpected word
  else if !usage.commands.isEmpty && usage.positionals.isEmpty then .unknownCommand word
  else .unexpected word

/-- Read a word that is a value. -/
def readValue (usage : Usage) (word : String) (reading : Reading) : Except UsageFault Reading :=
  match reading.awaiting? with
  | some argument => .ok { reading with pending := some (argument, some word) }
  | none =>
    match usage.positionals[reading.placed]? with
    | none => .error (usage.misplaced reading word)
    | some argument => do
      let reading ← reading.settle
      return { reading with pending := some (argument, some word), placed := reading.placed + 1 }

/-- Read a word that is no command. -/
def readWord (usage : Usage) (word : String) (reading : Reading) : Except Stop Reading :=
  let value := (usage.readValue word reading).mapError .fault
  if reading.onlyValues then value
  else
    match word.toList with
    -- Words behind two dashes are values, whatever they look like.
    | ['-', '-'] => .ok { reading with onlyValues := true }
    | '-' :: '-' :: rest =>
      let attached :=
        match rest.dropWhile (· ≠ '=') with
        | [] => none
        | _ :: value => some (String.ofList value)
      usage.readName (String.ofList (rest.takeWhile (· ≠ '='))) attached reading
    | '-' :: letter :: rest => usage.readLetters reading (letter :: rest)
    | _ => value

/-- Check that no two arguments exclude each other and that no argument is missing. -/
def checkFound (usage : Usage) (reading : Reading) : Except UsageFault Unit := do
  let rival? (argument : Argument) : Option Argument :=
    usage.exclusive.findSome? fun (one, other) =>
      if argument.name = one then reading.argument? other
      else if argument.name = other then reading.argument? one
      else none
  let clash := reading.found.findSome? fun (argument, _) =>
    (rival? argument).map fun rival => UsageFault.exclusive argument.shown rival.shown
  if let some fault := clash then throw fault
  let missing := usage.positionals.drop reading.placed
  if !missing.isEmpty then throw (.argumentsMissing (missing.map (·.shown)))

/-- What a command below is about, or the one at the end of some words. -/
def helpOn (usage : Usage) : List String → Stop
  | [] => .help usage.about true
  | word :: rest =>
    match usage.command? word with
    | some inner => inner.helpOn rest
    | none => .fault (.unknownCommand word)

/-- Settle a command after its last word; what is beneath it comes with it. -/
def close (usage : Usage) (path : String) (reading : Reading) (inner : Option Matched) :
    Except Stop Matched := do
  let reading ← reading.settle.mapError .fault
  if usage.needsCommand && inner.isNone then
    -- Who gives no words at all is shown what there is; who gives some has made a mistake.
    if reading.found.isEmpty then throw (.help usage.about false)
    else throw (.fault (.commandMissing path))
  (usage.checkFound reading).mapError .fault
  -- Values of the inner command come first, so that they are the ones that are found.
  let below := inner.getD ⟨[], []⟩
  return ⟨below.path, below.values ++ reading.values⟩

/--
Match words with a usage, from the left.

What stands after a command is matched before the words in front of it are settled, so of two faults
the one further inside is reported.
-/
def readAll (usage : Usage) (path : String) (reading : Reading) : List String → Except Stop Matched
  | [] => usage.close path reading none
  | word :: rest =>
    if reading.isOpen && word = "help" && !usage.commands.isEmpty then .error (usage.helpOn rest)
    else
      match if reading.isOpen then usage.command? word else none with
      | some command =>
        match command.readAll (path ++ " " ++ command.name) .start rest with
        | .error stop => .error stop
        | .ok inner => usage.close path reading (some ⟨command.name :: inner.path, inner.values⟩)
      | none =>
        match usage.readWord word reading with
        | .error stop => .error stop
        | .ok reading => usage.readAll path reading rest

/-- Match the words of a whole command line. -/
def parse (usage : Usage) (words : List String) : Except Stop Matched :=
  usage.readAll usage.name .start words

end Usage

end LiveBoard.Cli
