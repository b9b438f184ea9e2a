import Teletype.Text.Utf8

/-!
# Terminal capabilities

What an application can ask about by name. A text without parameters is given as it is sent to the
terminal; one with parameters keeps the notation of the terminal database, to be expanded by the
application. The table is sorted by name, and a name is found by halving it.
-/

namespace Teletype

/-- The value of a capability. -/
inductive Capability where
  /-- The terminal can do it. -/
  | flag
  | number (n : Nat)
  | text (s : String)
  /-- The name that the terminal was configured with. -/
  | terminalName
  deriving DecidableEq

namespace Capability

/-- How a value is sent. -/
def render (terminalName : String) : Capability → String
  | .flag => ""
  | .number n => toString n
  | .text s => s
  | .terminalName => terminalName

/-- Every capability by name, in the order of the names. -/
def table : Array (String × Capability) := #[
    ("AX", .flag),
    ("BD", .text "\x1b[?2004l"),
    ("BE", .text "\x1b[?2004h"),
    ("Co", .number 256),
    ("Cr", .text "\x1b]112\x1b\\"),
    ("Cs", .text "\\E]12;%p1%s\\E\\"),
    ("E3", .text "\x1b[3J"),
    ("Ms", .text "\\E]52;%p1%s;%p2%s\\E\\"),
    ("PE", .text "\x1b[201~"),
    ("PS", .text "\x1b[200~"),
    ("RGB", .number 8),
    ("RV", .text "\x1b[>c"),
    ("Se", .text "\x1b[ q"),
    ("Setulc", .text ("\\E[58:2::%p1%\x7b65536\x7d%/%d:%p1%\x7b256\x7d%/%\x7b255\x7d%&%d"
      ++ ":%p1%\x7b255\x7d%&%dm")),
    ("Smulx", .text "\\E[4:%p1%dm"),
    ("Ss", .text "\\E[%p1%d q"),
    ("Su", .flag),
    ("Sync", .text "\\EP=%p1%ds\\E\\"),
    ("TN", .terminalName),
    ("TS", .text "\x1b]2;"),
    ("XF", .flag),
    ("XM", .text "\\E[?1006;1000%?%p1%\x7b1\x7d%=%th%el%;"),
    ("XR", .text "\x1b[>0q"),
    ("XT", .flag),
    ("am", .flag),
    ("bce", .flag),
    ("bel", .text "^G"),
    ("blink", .text "\x1b[5m"),
    ("bold", .text "\x1b[1m"),
    ("cbt", .text "\x1b[Z"),
    ("ccc", .flag),
    ("civis", .text "\x1b[?25l"),
    ("clear", .text "\x1b[H\x1b[2J"),
    ("cnorm", .text "\x1b[?12l\x1b[?25h"),
    ("colors", .number 256),
    ("cols", .number 80),
    ("cr", .text "^M"),
    ("csr", .text "\\E[%i%p1%d;%p2%dr"),
    ("cub", .text "\\E[%p1%dD"),
    ("cub1", .text "^H"),
    ("cud", .text "\\E[%p1%dB"),
    ("cud1", .text "^J"),
    ("cuf", .text "\\E[%p1%dC"),
    ("cuf1", .text "\x1b[C"),
    ("cup", .text "\\E[%i%p1%d;%p2%dH"),
    ("cuu", .text "\\E[%p1%dA"),
    ("cuu1", .text "\x1b[A"),
    ("cvvis", .text "\x1b[?12;25h"),
    ("dch", .text "\\E[%p1%dP"),
    ("dch1", .text "\x1b[P"),
    ("dim", .text "\x1b[2m"),
    ("dl", .text "\\E[%p1%dM"),
    ("dl1", .text "\x1b[M"),
    ("dsl", .text "\x1b]2;\x1b\\"),
    ("ech", .text "\\E[%p1%dX"),
    ("ed", .text "\x1b[J"),
    ("el", .text "\x1b[K"),
    ("el1", .text "\x1b[1K"),
    ("flash", .text "\x1b]555\x1b\\"),
    ("fsl", .text "\x1b\\"),
    ("home", .text "\x1b[H"),
    ("hpa", .text "\\E[%i%p1%dG"),
    ("ht", .text "^I"),
    ("hts", .text "\x1bH"),
    ("ich", .text "\\E[%p1%d@"),
    ("il", .text "\\E[%p1%dL"),
    ("il1", .text "\x1b[L"),
    ("ind", .text "^J"),
    ("indn", .text "\\E[%p1%dS"),
    ("invis", .text "\x1b[8m"),
    ("it", .number 8),
    ("kbs", .text "^?"),
    ("kcub1", .text "\x1bOD"),
    ("kcud1", .text "\x1bOB"),
    ("kcuf1", .text "\x1bOC"),
    ("kcuu1", .text "\x1bOA"),
    ("kdch1", .text "\x1b[3~"),
    ("kend", .text "\x1bOF"),
    ("kf1", .text "\x1bOP"),
    ("kf10", .text "\x1b[21~"),
    ("kf11", .text "\x1b[23~"),
    ("kf12", .text "\x1b[24~"),
    ("kf2", .text "\x1bOQ"),
    ("kf3", .text "\x1bOR"),
    ("kf4", .text "\x1bOS"),
    ("kf5", .text "\x1b[15~"),
    ("kf6", .text "\x1b[17~"),
    ("kf7", .text "\x1b[18~"),
    ("kf8", .text "\x1b[19~"),
    ("kf9", .text "\x1b[20~"),
    ("khome", .text "\x1bOH"),
    ("kich1", .text "\x1b[2~"),
    ("km", .flag),
    ("kmous", .text "\x1b[M"),
    ("knp", .text "\x1b[6~"),
    ("kpp", .text "\x1b[5~"),
    ("lines", .number 24),
    ("mc5i", .flag),
    ("mir", .flag),
    ("msgr", .flag),
    ("npc", .flag),
    ("op", .text "\x1b[39;49m"),
    ("pairs", .number 65536),
    ("rc", .text "\x1b8"),
    ("rep", .text "%p1%c\\E[%p2%\x7b1\x7d%-%db"),
    ("rev", .text "\x1b[7m"),
    ("ri", .text "\x1bM"),
    ("rin", .text "\\E[%p1%dT"),
    ("ritm", .text "\x1b[23m"),
    ("rmacs", .text "\x1b(B"),
    ("rmam", .text "\x1b[?7l"),
    ("rmcup", .text "\x1b[?1049l\x1b[23;0;0t"),
    ("rmir", .text "\x1b[4l"),
    ("rmkx", .text "\x1b[?1l\x1b>"),
    ("rmso", .text "\x1b[27m"),
    ("rmul", .text "\x1b[24m"),
    ("rmxx", .text "\x1b[29m"),
    ("rs1", .text "\x1bc"),
    ("sc", .text "\x1b7"),
    ("setab", .text ("\\E[%?%p1%\x7b8\x7d%<%t4%p1%d%e%p1%\x7b16\x7d%<%t10%p1%\x7b8\x7d%-%d"
      ++ "%e48:5:%p1%d%;m")),
    ("setaf", .text ("\\E[%?%p1%\x7b8\x7d%<%t3%p1%d%e%p1%\x7b16\x7d%<%t9%p1%\x7b8\x7d%-%d"
      ++ "%e38:5:%p1%d%;m")),
    ("sgr0", .text "\x1b(B\x1b[m"),
    ("sitm", .text "\x1b[3m"),
    ("smacs", .text "\x1b(0"),
    ("smam", .text "\x1b[?7h"),
    ("smcup", .text "\x1b[?1049h\x1b[22;0;0t"),
    ("smir", .text "\x1b[4h"),
    ("smkx", .text "\x1b[?1h\x1b="),
    ("smso", .text "\x1b[7m"),
    ("smul", .text "\x1b[4m"),
    ("smxx", .text "\x1b[9m"),
    ("tbc", .text "\x1b[3g"),
    ("tsl", .text "\x1b]2;"),
    ("u6", .text "\\E[%i%d;%dR"),
    ("u7", .text "\x1b[6n"),
    ("u8", .text "\\E[?%[;0123456789]c"),
    ("u9", .text "\x1b[c"),
    ("vpa", .text "\\E[%i%p1%dd"),
    ("xenl", .flag)]

/-- Whether the name, byte by byte, comes before the other. -/
def precedes : List UInt8 → List UInt8 → Bool
  | _, [] => false
  | [], _ :: _ => true
  | a :: as, b :: bs => a < b || (a = b && precedes as bs)

/-- The value of a name among the sorted entries from `lo` up to but not including `hi`. -/
def search (entries : Array (String × Capability)) (name : List UInt8) (lo hi : Nat) :
    Option Capability :=
  if lo < hi then
    let mid := (lo + hi) / 2
    match entries[mid]? with
    | none => none
    | some (entry, value) =>
      let entry := Text.Utf8.encode entry
      if precedes name entry then search entries name lo mid
      else if precedes entry name then search entries name (mid + 1) hi
      else some value
  else none
termination_by hi - lo

/-- The value of the capability with the given name. -/
def find? (name : List UInt8) : Option Capability := search table name 0 table.size

end Capability

end Teletype
