import Teletype.Client
import Teletype.Reply

/-!
# The client's program

The client over a connection whose two directions are the standard streams: the request goes to the
output, and the exit code comes from the input.
-/

namespace Teletype.Client

/-- What people are told about arguments that cannot be used. -/
def usage : String :=
  "usage: client [OPTIONS] [COMMAND]...\n" ++
  "  -t, --term TERM                    value of TERM in the child\n" ++
  "  -T, --title TITLE                  initial window title\n" ++
  "  -a, --app-id ID                    application id\n" ++
  "  -w, --window-size-pixels WxH       initial window size in pixels\n" ++
  "  -W, --window-size-chars COLSxROWS  initial window size in cells\n" ++
  "  -m, --maximized\n" ++
  "  -F, --fullscreen\n" ++
  "  -L, --login-shell                  start the shell as a login shell\n" ++
  "  -D, --working-directory DIR        working directory of the child\n" ++
  "  -s, --server-socket PATH           server socket path\n" ++
  "  -H, --hold                         keep the terminal open\n" ++
  "  -N, --no-wait                      return immediately\n" ++
  "  -o, --override KEY=VALUE           configuration override, repeatable\n" ++
  "  -d, --log-level LEVEL              none, error, warning, info, debug or trace\n" ++
  "  -l, --log-colorize WHEN            never, always or auto\n"

/-- Reads at most `n` more bytes after those in `done`. -/
partial def readBytes (input : IO.FS.Stream) (n : Nat) (done : List UInt8) : IO (List UInt8) := do
  if n ≤ done.length then return done
  let bytes ← input.read (USize.ofNat (n - done.length))
  if bytes.isEmpty then return done
  readBytes input n (done ++ bytes.toList)

/-- Sends the request and waits for the exit code. -/
def exchange (c : Client) : IO ExitCode := do
  let here := (← IO.getEnv "PWD").getD "/"
  let request := c.request here
  for report in request.reports do
    IO.eprintln report.line
  match request.value.encode with
  | .error fault =>
    IO.eprintln fault.message
    return .unreachable
  | .ok bytes =>
    let output ← IO.getStdout
    output.write ⟨bytes.toArray⟩
    output.flush
    return c.exitCode here (some (← readBytes (← IO.getStdin) 4 []))

end Teletype.Client

/-- Runs the client. -/
def main (args : List String) : IO UInt32 := do
  match Teletype.Client.parse args with
  | .error .help =>
    IO.print Teletype.Client.usage
    return 0
  | .error .version =>
    IO.println Teletype.Reply.programVersion
    return 0
  | .error _ =>
    IO.eprint Teletype.Client.usage
    return 2
  | .ok c => return (← c.exchange).toUInt32
