import Teletype.CommandLine
import Teletype.ExitCode
import Teletype.LogLevel
import Teletype.Report
import Teletype.Request.Frame

/-!
# The client

A client asks a running server for a terminal and ends as the command in it ends. Its options become
settings of the terminal.
-/

namespace Teletype

/-- The options of the client. -/
inductive ClientOption where
  | term | title | appId | pixels | chars | maximized | fullscreen | loginShell | directory
  | socket | hold | noWait | override | logLevel | colorize | help | version
  deriving DecidableEq

namespace ClientOption

open CommandLine (Role)

/-- The option with a letter. -/
def short? : Char → Option ClientOption
  | 't' => some .term
  | 'T' => some .title
  | 'a' => some .appId
  | 'w' => some .pixels
  | 'W' => some .chars
  | 'm' => some .maximized
  | 'F' => some .fullscreen
  | 'L' => some .loginShell
  | 'D' => some .directory
  | 's' => some .socket
  | 'H' => some .hold
  | 'N' => some .noWait
  | 'o' => some .override
  | 'd' => some .logLevel
  | 'l' => some .colorize
  | 'h' => some .help
  | 'V' => some .version
  | _ => none

/-- The option with a long name. -/
def long? : String → Option ClientOption
  | "term" => some .term
  | "title" => some .title
  | "app-id" => some .appId
  | "window-size-pixels" => some .pixels
  | "window-size-chars" => some .chars
  | "maximized" => some .maximized
  | "fullscreen" => some .fullscreen
  | "login-shell" => some .loginShell
  | "working-directory" => some .directory
  | "server-socket" => some .socket
  | "hold" => some .hold
  | "no-wait" => some .noWait
  | "override" => some .override
  | "log-level" => some .logLevel
  | "log-colorize" => some .colorize
  | "help" => some .help
  | "version" => some .version
  | _ => none

/-- What an option is for. -/
def role : ClientOption → Role
  | .maximized | .fullscreen | .loginShell | .hold | .noWait => .flag
  | .override => .values
  | .help => .help
  | .version => .version
  | _ => .value

/-- Whether an option takes a value: a path must not be empty, and a choice must be known. -/
def accepts (option : ClientOption) (value : String) : Bool :=
  match option with
  | .directory | .socket => value ≠ ""
  | .logLevel => (LogLevel.ofName? value).isSome
  | .colorize => (Colorize.ofName? value).isSome
  | _ => true

/-- The options of the client. -/
def grammar : CommandLine.Grammar ClientOption := ⟨short?, long?, role, accepts⟩

end ClientOption

/-- What a client is called with. -/
structure Client where
  term : Option String := none
  title : Option String := none
  appId : Option String := none
  /-- The size of the window in pixels. -/
  pixels : Option String := none
  /-- The size of the window in cells. -/
  chars : Option String := none
  maximized : Bool := false
  fullscreen : Bool := false
  loginShell : Bool := false
  /-- Where the command runs. -/
  directory : Option String := none
  /-- Where the server listens. -/
  socket : Option String := none
  hold : Bool := false
  noWait : Bool := false
  overrides : List String := []
  logLevel : Option LogLevel := none
  colorize : Colorize := .auto
  command : List String := []
  deriving DecidableEq

namespace Client

open CommandLine (Arguments UsageError)

/-- Sorts out the options of the client. Of the two sizes, only one can be given, and a window is
not both maximized and full-screen. -/
def ofArguments (args : Arguments ClientOption) : Except (UsageError ClientOption) Client :=
  if args.has .pixels && args.has .chars then throw (.exclusive .pixels .chars)
  else if args.has .maximized && args.has .fullscreen then
    throw (.exclusive .maximized .fullscreen)
  else return {
    term := args.value? .term
    title := args.value? .title
    appId := args.value? .appId
    pixels := args.value? .pixels
    chars := args.value? .chars
    maximized := args.has .maximized
    fullscreen := args.has .fullscreen
    loginShell := args.has .loginShell
    directory := args.value? .directory
    socket := args.value? .socket
    hold := args.has .hold
    noWait := args.has .noWait
    overrides := args.values .override
    logLevel := (args.value? .logLevel).bind LogLevel.ofName?
    colorize := ((args.value? .colorize).bind Colorize.ofName?).getD .auto
    command := args.command }

/-- Reads the arguments of the client. -/
def parse (args : List String) : Except (UsageError ClientOption) Client := do
  ofArguments (← CommandLine.parse ClientOption.grammar args)

/-- A setting as an item of a request, if it is given. -/
def item (key : String) (value : Option String) : List String :=
  (value.map fun v => key ++ "=" ++ v).toList

/-- The settings that the client asks for. The overrides come last, so that they win. -/
def settings (c : Client) : List String :=
  item "term" c.term ++ item "title" c.title ++ item "app-id" c.appId
    ++ item "initial-window-size-pixels" c.pixels ++ item "initial-window-size-chars" c.chars
    ++ item "initial-window-mode"
      (if c.maximized then some "maximized" else if c.fullscreen then some "fullscreen" else none)
    ++ c.overrides

/-- What the client asks for when it is called in the given directory. -/
def request (c : Client) (here : String) : Reported Request :=
  ⟨{ hold := c.hold
     noWait := c.noWait
     directory := c.directory.getD here
     overrides := c.settings
     command := c.command },
    if c.loginShell then
      [⟨.warning, "--login-shell is not supported by the server; ignoring", []⟩]
    else []⟩

/-- What the client ends with, from what the server sends; nothing is sent if no server can be
reached. -/
def exitCode (c : Client) (here : String) (reply : Option (List UInt8)) : ExitCode :=
  match (c.request here).value.encode, reply.map ExitCode.read with
  | .ok _, some (.ok code) => code
  | _, _ => .unreachable

end Client

end Teletype
