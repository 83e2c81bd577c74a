import Compliance.Settings

/-!
# Compliance.Command

What can be asked on the command line.

* `Command`    — what is to be done, with which files.
* `Invocation` — a command with the flags that go with every command.
-/

namespace Compliance

inductive Command where
  /-- Writes a rule in its canonical form. -/
  | parse (rule : String)
  /-- Tells whether a file is a rule. -/
  | check (rule : String)
  /-- Evaluates a rule against a context. -/
  | eval (rule context : String)
  /-- Evaluates all rules of a rule set against a context. -/
  | batch (rules context : String)
  deriving DecidableEq, Repr

/-- A command with the flags that go with every command; files are named by their paths. -/
structure Invocation where
  format : Option Format
  quiet : Bool
  now : Option String
  settings : Option String
  command : Command
  deriving DecidableEq, Repr

/-- The files that a command reads, in its order. -/
def Command.files : Command → List String
  | .parse rule => [rule]
  | .check rule => [rule]
  | .eval rule context => [rule, context]
  | .batch rules context => [rules, context]

def Invocation.files (i : Invocation) : List String := i.settings.toList ++ i.command.files

end Compliance
