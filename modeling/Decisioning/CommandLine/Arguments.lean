/-!
# Command-Line Arguments

What a list of arguments asks for.

Arguments are taken one after another, and the first one that cannot stand where
it does decides that the whole list is refused. The general options may stand on
every level of commands. On one level each of them may be given once; given on
several levels, the innermost counts. A value may be joined to its option by an
equals sign; otherwise it is the next argument, which then must not look like
an option.

Asking for help or the version by an option ends the reading at once, whatever
follows. The word for help takes the words after it as a way down the levels of
commands, and each of them must lead on.

## Main definitions

* `Options`, `Command`, `Invocation`: What can be asked for.
* `Reading.take`: The effect of one argument.
* `Invocation.ofArguments`: What a list of arguments asks for.
-/

namespace Decisioning

namespace CommandLine

/-- The form of what is printed. -/
inductive Format where
  | text
  | json
deriving DecidableEq, Repr

/-- The general options as they are given on one level; what is not given is
    `none`. -/
structure Options where
  output : Option Format
  quiet : Bool
  logLevel : Option String
  config : Option String
deriving DecidableEq, Repr

namespace Options

/-- No option is given. -/
def nothing : Options := { output := none, quiet := false, logLevel := none, config := none }

/-- The options of a level together with those of the level inside it, which
    count if both are given. -/
def within (outer inner : Options) : Options :=
  { output := inner.output <|> outer.output
    quiet := inner.quiet || outer.quiet
    logLevel := inner.logLevel <|> outer.logLevel
    config := inner.config <|> outer.config }

/-- The form of what is printed; text unless another one is asked for. -/
def format (o : Options) : Format := o.output.getD .text

end Options

/-- A command with its own arguments. -/
inductive Command where
  /-- Summarize what a payload comes to for some surfaces. -/
  | parse (file : String) (surfaces : List String)
  /-- Check that a payload is well formed. -/
  | validate (file : String)
  /-- Replay a session. -/
  | replay (file : String)
  /-- Show what is cached. -/
  | showCache (directory : Option String)
  /-- Drop what is cached. -/
  | clearCache (directory : Option String)
deriving DecidableEq, Repr

/-- What a list of arguments asks for. -/
inductive Invocation where
  | run (options : Options) (command : Command)
  | version
  | help
  /-- The arguments make no sense. -/
  | misuse
deriving DecidableEq, Repr

/-- A level of commands: the program itself, a group of commands, or a command. -/
inductive Level where
  | program
  | cache
  /-- The help on a level. -/
  | help
  | parse
  | validate
  | replay
  | showCache
  | clearCache
deriving DecidableEq, Repr

namespace Level

/-- The level that a word leads to. -/
def enter? : Level → String → Option Level
  | .program, "parse" => some .parse
  | .program, "validate" => some .validate
  | .program, "replay" => some .replay
  | .program, "cache" => some .cache
  | .cache, "show" => some .showCache
  | .cache, "clear" => some .clearCache
  | .program, "help" | .cache, "help" => some .help
  | _, _ => none

/-- Whether a level is that of a command that works on a file. -/
def takesFile : Level → Bool
  | .parse | .validate | .replay => true
  | _ => false

end Level

/-- An option that has a value. -/
inductive ValueOption where
  | output
  | logLevel
  | config
  | surface
  | directory
deriving DecidableEq, Repr

/-- The option of a level that has a value and a given name. -/
def Level.option? : Level → String → Option ValueOption
  | _, "output" => some .output
  | _, "log-level" => some .logLevel
  | _, "config" => some .config
  | .parse, "surface" => some .surface
  | .showCache, "dir" | .clearCache, "dir" => some .directory
  | _, _ => none

/-- Arguments in the course of being read. -/
structure Reading where
  level : Level
  /-- The options of the levels around this one. -/
  outer : Options
  /-- The options of this level. -/
  here : Options
  file : Option String
  surfaces : List String
  directory : Option String
  /-- The level whose help is asked for. -/
  topic : Option Level
  /-- The option that waits for its value. -/
  awaiting : Option ValueOption
  /-- Whether options have been declared to be over. -/
  escaped : Bool
deriving DecidableEq, Repr

namespace Reading

/-- Nothing is read yet. -/
def start : Reading :=
  { level := .program, outer := .nothing, here := .nothing, file := none, surfaces := [],
    directory := none, topic := none, awaiting := none, escaped := false }

/-- The result of taking an argument: what is read now, or the end of reading. -/
abbrev Taken := Except Invocation Reading

/-- Set what may be set once. -/
def once {α : Type} (old : Option α) (new : Option α) (use : Option α → Reading) : Taken :=
  if old.isSome || new.isNone then .error .misuse else .ok (use new)

/-- A path, which must not be empty. -/
def path? (text : String) : Option String := if text.isEmpty then none else some text

/-- A form of what is printed, by its name. -/
def format? : String → Option Format
  | "text" => some .text
  | "json" => some .json
  | _ => none

/-- Give an option its value. -/
def giveValue (r : Reading) (value : String) : ValueOption → Taken
  | .output => once r.here.output (format? value) fun output =>
      { r with here := { r.here with output } }
  | .logLevel => once r.here.logLevel (some value) fun logLevel =>
      { r with here := { r.here with logLevel } }
  | .config => once r.here.config (path? value) fun config =>
      { r with here := { r.here with config } }
  | .surface => .ok { r with surfaces := r.surfaces ++ [value] }
  | .directory => once r.directory (path? value) fun directory => { r with directory }

/-- Take an option that is written with two hyphens, its name and its joined
    value. -/
def takeLong (r : Reading) (name : String) (joined : Option String) : Taken :=
  match r.level.option? name, joined with
  | some option, some value => r.giveValue value option
  | some option, none => .ok { r with awaiting := some option }
  | none, some _ => .error .misuse
  | none, none =>
      if name = "quiet" then
        if r.here.quiet then .error .misuse
        else .ok { r with here := { r.here with quiet := true } }
      else if name = "help" then .error .help
      else if name = "version" ∧ r.level = .program then .error .version
      else .error .misuse

/-- Take an option that is written with one hyphen and this letter. -/
def takeShort (r : Reading) (letter : Char) : Taken :=
  if letter = 'h' then .error .help
  else if letter = 'V' ∧ r.level = .program then .error .version
  else .error .misuse

/-- Take a word: the name of a command, or its file. -/
def takeWord (r : Reading) (word : String) : Taken :=
  if r.level.takesFile then
    once r.file (path? word) fun file => { r with file }
  else if r.escaped then .error .misuse
  else
    match r.level.enter? word with
    | some .help => .ok { r with topic := some r.level }
    | some level => .ok { r with level, outer := r.outer.within r.here, here := .nothing }
    | none => .error .misuse

/-- Take a word on the way from a level to the one whose help is asked for. -/
def takeTopic (r : Reading) (topic : Level) (word : String) : Taken :=
  match topic.enter? word with
  | some level => .ok { r with topic := some level }
  | none => .error .misuse

/-- A name and the value that an equals sign joins to it. -/
def splitJoined (cs : List Char) : String × Option String :=
  let (name, rest) := cs.span (· ≠ '=')
  (String.ofList name, match rest with
    | [] => none
    | _ :: value => some (String.ofList value))

/-- Take an argument among which there may be options. -/
def takeArgument (r : Reading) (argument : String) : Taken :=
  match r.awaiting, argument.toList with
  | some option, ['-'] => { r with awaiting := none }.giveValue argument option
  | some _, '-' :: _ => .error .misuse
  | some option, _ => { r with awaiting := none }.giveValue argument option
  | none, ['-', '-'] => .ok { r with escaped := true }
  | none, '-' :: '-' :: cs => let (name, joined) := splitJoined cs; r.takeLong name joined
  | none, '-' :: letter :: _ => r.takeShort letter
  | none, _ => r.takeWord argument

/-- Take one argument. -/
def take (r : Reading) (argument : String) : Taken :=
  match r.topic with
  | some topic => r.takeTopic topic argument
  | none => if r.escaped then r.takeWord argument else r.takeArgument argument

/-- The command that complete arguments name. -/
def command? (r : Reading) : Option Command :=
  match r.level with
  | .program | .cache | .help => none
  | .parse => if r.surfaces.isEmpty then none else r.file.map fun file => .parse file r.surfaces
  | .validate => r.file.map .validate
  | .replay => r.file.map .replay
  | .showCache => some (.showCache r.directory)
  | .clearCache => some (.clearCache r.directory)

end Reading

/-- What a list of arguments, without the name of the program, asks for. -/
def Invocation.ofArguments (arguments : List String) : Invocation :=
  match arguments.foldlM Reading.take Reading.start with
  | .error invocation => invocation
  | .ok r =>
      match r.topic, r.awaiting, r.command? with
      | some _, _, _ => .help
      | none, none, some command => .run (r.outer.within r.here) command
      | none, _, _ => .misuse

end CommandLine

end Decisioning
