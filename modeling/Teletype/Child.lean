import Teletype.Config.Basic
import Teletype.ServiceError
import Teletype.Text.Split

/-!
# Children

The command that runs in a terminal, with its place and environment.
-/

namespace Teletype

/-- An environment: no name occurs twice. -/
abbrev Environment := List (String × String)

namespace Environment

/-- The value of a variable. -/
def find? (env : Environment) (name : String) : Option String := List.lookup name env

/-- The environment with a variable set. -/
def put (env : Environment) (name value : String) : Environment :=
  env.filter (fun v => v.1 ≠ name) ++ [(name, value)]

/-- The environment with a variable set, if there is a value for it. -/
def put? (env : Environment) (name : String) : Option String → Environment
  | some value => env.put name value
  | none => env

/-- The environment that the assignments make, of which later ones win. -/
def ofList (assignments : List (String × String)) : Environment :=
  assignments.foldl (fun env v => env.put v.1 v.2) []

end Environment

/-- What to run in a terminal. -/
structure Child where
  /-- The command with its arguments; without one, a shell. -/
  command : List String
  directory : Option String := none
  /-- The name that applications know the terminal by. -/
  term : String
  terminfoDir : Option String := none
  size : Size := ⟨80, 24⟩
  deriving DecidableEq

namespace Child

/-- The shell that runs if no other is known. -/
def fallbackShell : String := "/bin/sh"

/-- The command that runs: the given one, else the shell. -/
def resolve (command : List String) (shell : Option String) : List String :=
  match command, shell with
  | [], none | [], some "" => [fallbackShell]
  | [], some shell => [shell]
  | command, _ => command

/-- The environment of the child, made from that of the server: what it says of another terminal
is left out, and the terminal, its colours, the directory and the description are set. -/
def environment (child : Child) (base : List (String × String)) : Environment :=
  let kept := base.filter fun v => !v.1.startsWith "TERM_PROGRAM"
  Environment.ofList kept
    |>.put "TERM" child.term
    |>.put "COLORTERM" "truecolor"
    |>.put? "PWD" child.directory
    |>.put? "TERMINFO" child.terminfoDir

/-- The command that runs in an environment. -/
def commandIn (child : Child) (env : Environment) : List String :=
  resolve child.command (env.find? "SHELL")

/-- The error of a command that does not exist. A program with an absolute path is looked for
there only, any other one in the directories of the search path. -/
def missing (command : List String) : ServiceError :=
  let program := command.headD ""
  let reason :=
    if program.startsWith "/" then " or is not executable (ENOENT: No such file or directory)"
    else " and was not found in PATH"
  .launch (" ".intercalate command ++ ": Unable to spawn " ++ program
    ++ " because it doesn't exist on the filesystem" ++ reason)

end Child

end Teletype
