import Compliance.Command

/-!
# Compliance.Command.Arguments

Invocations from the words of a command line.

* `Flag`                    — the flags with a value.
* `UsageError`              — what can be wrong with the words.
* `Invocation.ofArguments?` — reads the words.
-/

namespace Compliance

/-- The flags with a value. -/
inductive Flag where
  | output
  | now
  | config
  | context
  deriving DecidableEq, Repr

namespace Flag

def all : List Flag := [output, now, config, context]

def name : Flag → String
  | .output => "output"
  | .now => "now"
  | .config => "config"
  | .context => "context"

/-- A flag with what its value is. -/
def usage : Flag → String
  | .output => "--output <OUTPUT>"
  | .now => "--now <RFC3339>"
  | .config => "--config <CONFIG>"
  | .context => "--context <CONTEXT>"

/-- The flags that go with every command. -/
def common : List Flag := [output, now, config]

def ofName? (known : List Flag) (name : String) : Option Flag :=
  known.find? fun flag => flag.name == name

end Flag

inductive UsageError where
  | nothing
  | missingCommand
  | unknownCommand (word : String)
  | unexpected (word : String)
  | missingValue (flag : Flag)
  | badValue (flag : Flag) (value : String) (known : List String)
  | repeatedFlag (usage : String)
  | quietWithValue (value : String)
  | missingArgument (usage : String)
  deriving DecidableEq, Repr

def UsageError.message : UsageError → String
  | .nothing => "Canon compliance rule toolchain"
  | .missingCommand =>
    "error: 'canon' requires a subcommand but one was not provided\n" ++
      "  [subcommands: parse, check, eval, batch]"
  | .unknownCommand word => "error: unrecognized subcommand '" ++ word ++ "'"
  | .unexpected word => "error: unexpected argument '" ++ word ++ "' found"
  | .missingValue flag =>
    "error: a value is required for '" ++ flag.usage ++ "' but none was supplied"
  | .badValue flag value known =>
    "error: invalid value '" ++ value ++ "' for '" ++ flag.usage ++ "'\n" ++
      "  [possible values: " ++ String.intercalate ", " known ++ "]"
  | .repeatedFlag usage => "error: the argument '" ++ usage ++ "' cannot be used multiple times"
  | .quietWithValue value =>
    "error: unexpected value '" ++ value ++ "' for '--quiet' found; no more were expected"
  | .missingArgument usage =>
    "error: the following required arguments were not provided:\n  " ++ usage

namespace Invocation

/-- A word of a command line. -/
inductive Word where
  | plain (text : String)
  /-- A flag, with its value if that is joined to it. -/
  | flag (name : String) (value : Option String)
  /-- Two hyphens: no flag follows. -/
  | separator
  /-- A hyphen in front of letters. -/
  | letters (text : String)

def Word.ofText (text : String) : Word :=
  match text.toList with
  | ['-', '-'] => .separator
  | '-' :: '-' :: rest =>
    let name := String.ofList (rest.takeWhile (· != '='))
    match rest.dropWhile (· != '=') with
    | [] => .flag name none
    | _ :: value => .flag name (some (String.ofList value))
  | '-' :: _ :: _ => .letters text
  | _ => .plain text

/-- Can a word be the value of the flag in front of it? -/
def Word.isPlain : Word → Bool
  | .plain _ => true
  | _ => false

/-- What has been read: flags with their values, and the words that are no flags. -/
structure Words where
  flags : List (Flag × String)
  quiet : Bool
  plain : List String

namespace Words

def empty : Words := ⟨[], false, []⟩

def value? (flag : Flag) (w : Words) : Option String :=
  (w.flags.find? fun (f, _) => f == flag).map (·.2)

def addFlag (flag : Flag) (value : String) (w : Words) : Except UsageError Words :=
  if (w.value? flag).isSome then .error (.repeatedFlag flag.usage)
  else .ok { w with flags := (flag, value) :: w.flags }

def addQuiet (w : Words) : Except UsageError Words :=
  if w.quiet then .error (.repeatedFlag "--quiet") else .ok { w with quiet := true }

def addPlain (words : List String) (w : Words) : Words := { w with plain := w.plain ++ words }

end Words

/-- Reads words. `known` are the flags with a value that may occur. In front of a command its name
ends the reading; then it is the first of the words that are left. -/
def readWords (known : List Flag) (stopsAtPlain : Bool) :
    List String → Words → Except UsageError (Words × List String)
  | [], w => .ok (w, [])
  | text :: rest, w =>
    match Word.ofText text with
    | .plain _ =>
      if stopsAtPlain then .ok (w, text :: rest)
      else readWords known stopsAtPlain rest (w.addPlain [text])
    | .separator =>
      if stopsAtPlain then .error (.unexpected text) else .ok (w.addPlain rest, [])
    | .letters _ => .error (.unexpected text)
    | .flag name joined =>
      match name == "quiet", joined, Flag.ofName? known name with
      | true, none, _ => w.addQuiet.bind fun w => readWords known stopsAtPlain rest w
      | true, some value, _ => .error (.quietWithValue value)
      | false, _, none => .error (.unexpected ("--" ++ name))
      | false, some value, some flag =>
        (w.addFlag flag value).bind fun w => readWords known stopsAtPlain rest w
      | false, none, some flag =>
        match rest with
        | [] => .error (.missingValue flag)
        | value :: rest =>
          if (Word.ofText value).isPlain then
            (w.addFlag flag value).bind fun w => readWords known stopsAtPlain rest w
          else .error (.missingValue flag)

/-- A path is not empty. -/
def pathOf (flag : Flag) (value : String) : Except UsageError String :=
  if value.isEmpty then .error (.missingValue flag) else .ok value

def formatOf (value : String) : Except UsageError Format :=
  match Format.names.find? fun (name, _) => name == value with
  | some (_, format) => .ok format
  | none => .error (.badValue .output value (Format.names.map (·.1)))

/-- The only word that a command takes, a path. -/
def fileOf (usage : String) : List String → Except UsageError String
  | [] => .error (.missingArgument usage)
  | [file] => if file.isEmpty then .error (.missingArgument usage) else .ok file
  | _ :: extra :: _ => .error (.unexpected extra)

/-- How a command is called. -/
structure Usage where
  name : String
  /-- What its only word is. -/
  file : String
  takesContext : Bool
  command : String → String → Command

def usages : List Usage :=
  [⟨"parse", "<FILE>", false, fun file _ => .parse file⟩,
   ⟨"check", "<FILE>", false, fun file _ => .check file⟩,
   ⟨"eval", "<FILE>", true, .eval⟩,
   ⟨"batch", "<RULES>", true, .batch⟩]

/-- The context that a command names, if it takes one. -/
def contextOf (u : Usage) (w : Words) : Except UsageError String :=
  if u.takesContext then
    match w.value? .context with
    | some path => pathOf .context path
    | none => .error (.missingArgument Flag.context.usage)
  else .ok ""

/-- The invocation of a command, with the flags in front of its name, `common`, and behind it,
`own`; the latter count first. -/
def build (u : Usage) (common own : Words) : Except UsageError Invocation := do
  let value? (flag : Flag) : Option String := (own.value? flag).or (common.value? flag)
  let format ← (value? .output).mapM formatOf
  let settings ← (value? .config).mapM (pathOf .config)
  let context ← contextOf u own
  let file ← fileOf u.file own.plain
  .ok ⟨format, own.quiet || common.quiet, value? .now, settings, u.command file context⟩

/-- Reads the words of a command line. -/
def ofArguments? (words : List String) : Except UsageError Invocation := do
  if words.isEmpty then .error .nothing
  let (common, rest) ← readWords Flag.common true words .empty
  match rest with
  | [] => .error .missingCommand
  | name :: rest =>
    match usages.find? fun u => u.name == name with
    | none => .error (.unknownCommand name)
    | some u =>
      let (own, _) ← readWords (if u.takesContext then Flag.all else Flag.common) false rest .empty
      build u common own

end Invocation

end Compliance
