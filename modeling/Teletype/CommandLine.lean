/-!
# Command lines

The arguments of a program: options, and then a command that is taken as it stands. An option has a
long name after two hyphens and a letter after one; letters can be written together. The value of
an option is the next argument, or follows its long name and an equals sign, or its letter. An
argument that looks like an option but is none is a plain one; so is a group of letters if the
program does not know all of them. The first plain argument that is no value starts the command, and
so does `--`, which is left out.
-/

namespace Teletype.CommandLine

/-- What an option is for. -/
inductive Role where
  /-- It is there or not. -/
  | flag
  /-- It takes a value. -/
  | value
  /-- It takes a value, and can be given again. -/
  | values
  /-- It asks for help. -/
  | help
  /-- It asks for the version. -/
  | version
  deriving DecidableEq

/-- The options of a program. -/
structure Grammar (ω : Type) where
  /-- The option with a letter. -/
  short? : Char → Option ω
  /-- The option with a long name. -/
  long? : String → Option ω
  role : ω → Role
  /-- Whether an option takes the given value. -/
  accepts : ω → String → Bool

/-- Why there is nothing to run. -/
inductive UsageError (ω : Type) where
  | help
  | version
  | missingValue (option : ω)
  | badValue (option : ω) (value : String)
  /-- The option is given again. -/
  | repeated (option : ω)
  /-- The option has a value and takes none. -/
  | needlessValue (option : ω)
  /-- Only one of the options can be given. -/
  | exclusive (option other : ω)
  deriving DecidableEq

/-- The arguments, sorted out. -/
structure Arguments (ω : Type) where
  /-- The options in the order in which they were given, with their values. -/
  options : List (ω × Option String)
  command : List String

namespace Arguments

variable {ω : Type} [DecidableEq ω]

/-- Whether an option was given. -/
def has (args : Arguments ω) (option : ω) : Bool := args.options.any fun o => o.1 = option

/-- The values of an option. -/
def values (args : Arguments ω) (option : ω) : List String :=
  args.options.filterMap fun o => if o.1 = option then o.2 else none

/-- The value of an option. -/
def value? (args : Arguments ω) (option : ω) : Option String := (args.values option).head?

end Arguments

/-- What an argument looks like. -/
inductive Word (ω : Type) where
  /-- Two hyphens and nothing else. -/
  | separator
  /-- A long name, perhaps with a value. -/
  | long (option : ω) (value : Option String)
  /-- Letters without values, and perhaps one with a value, which may follow it. -/
  | letters (flags : List ω) (last : Option (ω × Option String))
  | plain

namespace Grammar

variable {ω : Type}

/-- Whether an option takes a value. -/
def takesValue (g : Grammar ω) (option : ω) : Bool :=
  g.role option = .value || g.role option = .values

/-- The options of letters written together. What follows the letter of an option with a value is
the value. -/
def letters (g : Grammar ω) : List Char → Word ω
  | [] => .letters [] none
  | c :: rest =>
    match g.short? c with
    | none => .plain
    | some option =>
      if g.takesValue option then
        .letters [] (some (option, if rest.isEmpty then none else some (String.ofList rest)))
      else match g.letters rest with
        | .letters flags last => .letters (option :: flags) last
        | word => word

/-- What an argument looks like. -/
def word (g : Grammar ω) (arg : String) : Word ω :=
  match arg.toList with
  | ['-', '-'] => .separator
  | '-' :: '-' :: body =>
    let name := body.takeWhile (· ≠ '=')
    let value := match body.dropWhile (· ≠ '=') with
      | [] => none
      | _ :: value => some (String.ofList value)
    match g.long? (String.ofList name) with
    | some option => .long option value
    | none => .plain
  | '-' :: c :: rest =>
    if (c :: rest).all fun c => (g.short? c).isSome then g.letters (c :: rest) else .plain
  | _ => .plain

end Grammar

/-- The options so far. -/
structure Reading (ω : Type) where
  options : List (ω × Option String) := []
  /-- The last option that takes a value, with the value once it is there. -/
  waiting : Option (ω × Option String) := none

namespace Reading

variable {ω : Type} [DecidableEq ω]

/-- Adds an option with its value. -/
def add (g : Grammar ω) (r : Reading ω) (option : ω) (value : Option String) :
    Except (UsageError ω) (Reading ω) :=
  if g.role option ≠ .values && r.options.any (fun o => o.1 = option) then
    throw (.repeated option)
  else match value with
    | some v =>
      if g.accepts option v then return { r with options := r.options ++ [(option, value)] }
      else throw (.badValue option v)
    | none => return { r with options := r.options ++ [(option, none)] }

/-- Adds the option that waits, whose value must be there. -/
def settle (g : Grammar ω) (r : Reading ω) : Except (UsageError ω) (Reading ω) :=
  match r.waiting with
  | none => return r
  | some (option, none) => throw (.missingValue option)
  | some (option, value) => { r with waiting := none }.add g option value

/-- Meets an option without a value. -/
def meet (g : Grammar ω) (r : Reading ω) (option : ω) : Except (UsageError ω) (Reading ω) := do
  let r ← r.settle g
  match g.role option with
  | .help => throw .help
  | .version => throw .version
  | .flag => r.add g option none
  | .value | .values => return { r with waiting := some (option, none) }

/-- Meets an option with its value. -/
def meetWith (g : Grammar ω) (r : Reading ω) (option : ω) (value : String) :
    Except (UsageError ω) (Reading ω) := do
  if g.takesValue option then (← r.settle g).add g option (some value)
  else throw (.needlessValue option)

/-- Meets an option with the value that it may have. -/
def meetMaybe (g : Grammar ω) (r : Reading ω) (option : ω) :
    Option String → Except (UsageError ω) (Reading ω)
  | none => r.meet g option
  | some value => r.meetWith g option value

end Reading

/-- Sorts arguments out after those that were read. -/
def parseFrom {ω : Type} [DecidableEq ω] (g : Grammar ω) (r : Reading ω) :
    List String → Except (UsageError ω) (Arguments ω)
  | [] => do
    let r ← r.settle g
    return ⟨r.options, []⟩
  | arg :: rest =>
    match g.word arg, r.waiting with
    | .separator, _ => do
      let r ← r.settle g
      return ⟨r.options, rest⟩
    | .long option value, _ => do
      let r ← r.meetMaybe g option value
      parseFrom g r rest
    | .letters flags last, _ => do
      let r ← flags.foldlM (Reading.meet g) r
      let r ← match last with
        | none => pure r
        | some (option, value) => r.meetMaybe g option value
      parseFrom g r rest
    | .plain, some (option, none) =>
      parseFrom g { r with waiting := some (option, some arg) } rest
    | .plain, _ => do
      let r ← r.settle g
      return ⟨r.options, arg :: rest⟩

/-- Sorts arguments out. -/
def parse {ω : Type} [DecidableEq ω] (g : Grammar ω) (args : List String) :
    Except (UsageError ω) (Arguments ω) := parseFrom g {} args

end Teletype.CommandLine
