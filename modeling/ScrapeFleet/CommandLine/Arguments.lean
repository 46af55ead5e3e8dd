/-!
Reading the arguments of the command line.

Options stand before and after the subcommand, each at most once in either place.  A
value follows its option as the next argument, or in the same one after an equals sign;
after a one-letter option it may follow at once.  Arguments are read from left to right,
and the first one that asks for help or makes no sense decides.
-/

namespace ScrapeFleet.CommandLine

inductive LogFormat where
  | text
  | json
  deriving DecidableEq, Repr

inductive Command where
  | run (path : String)
  | check (path : String)
  deriving DecidableEq, Repr

structure Invocation where
  command : Command
  logFormat : LogFormat := .text
  deriving DecidableEq, Repr

inductive Refusal where
  | helpWanted
  | misuse
  deriving DecidableEq, Repr

/-! ## Options -/

inductive Setting where
  | logFormat
  | config
  deriving DecidableEq, Repr

def LogFormat.ofName? : String → Option LogFormat
  | "text" => some .text
  | "json" => some .json
  | _ => none

def Setting.accepts : Setting → String → Bool
  | .logFormat, v => (LogFormat.ofName? v).isSome
  | .config, v => v ≠ ""

structure Level where
  allowed : List Setting
  given : List (Setting × String) := []
  /-- The last setting, which has not been looked at yet, with its value if that has been
  read. -/
  pending : Option (Setting × Option String) := none
  deriving Repr

namespace Level

def outer : Level := { allowed := [.logFormat] }

def inner : Level := { allowed := [.logFormat, .config] }

def give (l : Level) (s : Setting) (v : String) : Except Refusal Level :=
  if (l.given.lookup s).isNone && s.accepts v then .ok { l with given := (s, v) :: l.given }
  else .error .misuse

def resolve (l : Level) : Except Refusal Level :=
  match l.pending with
  | none => .ok l
  | some (_, none) => .error .misuse
  | some (s, some v) => { l with pending := none }.give s v

def awaitsValue (l : Level) : Bool :=
  match l.pending with
  | some (_, none) => true
  | _ => false

def option (l : Level) (s : Setting) (attached : Option String) : Except Refusal Level := do
  if !l.allowed.contains s then .error .misuse
  else
    let l ← l.resolve
    match attached with
    | some v => l.give s v
    | none => .ok { l with pending := some (s, none) }

def help (l : Level) : Except Refusal Level := do
  discard l.resolve
  .error .helpWanted

def long (l : Level) (body : List Char) : Except Refusal Level :=
  let name := String.ofList (body.takeWhile (· ≠ '='))
  let attached := match body.dropWhile (· ≠ '=') with
    | [] => none
    | _ :: v => some (String.ofList v)
  match name, attached with
  | "help", none => l.help
  | "log-format", v => l.option .logFormat v
  | "config", v => l.option .config v
  | _, _ => .error .misuse

def short (l : Level) : List Char → Except Refusal Level
  | ['c'] => l.option .config none
  | 'c' :: '=' :: v => l.option .config (some (String.ofList v))
  | 'c' :: v => l.option .config (some (String.ofList v))
  | 'h' :: _ => l.help
  | _ => .error .misuse

def argument (l : Level) (arg : String) : Except Refusal Level :=
  match arg.toList with
  | '-' :: '-' :: body => l.long body
  | '-' :: c :: rest => l.short (c :: rest)
  | _ =>
    match l.pending with
    | some (s, none) => .ok { l with pending := some (s, some arg) }
    | _ => .error .misuse

def setting? (l : Level) (s : Setting) : Option String := l.given.lookup s

end Level

/-! ## Subcommands -/

/-- Reads what follows the subcommand.  After two dashes on their own no option can come. -/
def readInner (l : Level) : List String → Except Refusal Level
  | [] => l.resolve
  | "--" :: rest => if rest.isEmpty then l.resolve else .error .misuse
  | arg :: rest => do readInner (← l.argument arg) rest

def subcommands : List (String × (String → Command)) := [("run", .run), ("check", .check)]

def helpOn : List String → Refusal
  | [] => .helpWanted
  | [name] => if name = "help" || (subcommands.lookup name).isSome then .helpWanted else .misuse
  | _ => .misuse

/-- The invocation of a subcommand; what stands after the subcommand counts first. -/
def invocation (make : String → Command) (outer inner : Level) : Except Refusal Invocation := do
  match inner.setting? .config with
  | none => .error .misuse
  | some path =>
    let outer ← outer.resolve
    let format := (inner.setting? .logFormat).or (outer.setting? .logFormat)
    pure { command := make path, logFormat := (format.bind LogFormat.ofName?).getD .text }

def readOuter (l : Level) : List String → Except Refusal Invocation
  | [] => .error .misuse
  | arg :: rest =>
    if l.awaitsValue then do readOuter (← l.argument arg) rest
    else if arg = "help" then .error (helpOn rest)
    else
      match subcommands.lookup arg with
      | some make => do invocation make l (← readInner .inner rest)
      | none => if arg = "--" then .error .misuse else do readOuter (← l.argument arg) rest

def parse (args : List String) : Except Refusal Invocation := readOuter .outer args

end ScrapeFleet.CommandLine
