import ProbeCampaign.Report
import ProbeCampaign.Text.Decimal

/-!
# The grammar of command lines

A `CommandSpec` describes a command: its options, its operand and its
subcommands. `parse` reads arguments by it. Options may stand anywhere after
their command; a long one takes its value after an equals sign or as the next
argument, a short one also right behind its letter, and letters without a value
may share a dash. After two dashes everything is an operand.
-/

namespace ProbeCampaign.CommandLine

/-- What may be given as a value. -/
inductive ValueKind where
  | path
  | text
  | integer
  | count
  | respType
  | scheme
  | format
  | corpusKind

/-- Whether a text is a value of a kind. -/
def ValueKind.accepts : ValueKind → String → Bool
  | .path, s => !s.isEmpty
  | .text, _ => true
  | .integer, s => (Decimal.int64? s.toList).isSome
  | .count, s => (Decimal.int64? s.toList).any fun n => 0 ≤ n && n < (capacity 32 : Int)
  | .respType, s => (RespType.ofName? s).isSome
  | .scheme, s => (Scheme.ofName? s).isSome
  | .format, s => (ReportFormat.ofName? s).isSome
  | .corpusKind, s => (CorpusKind.ofName? s).isSome

/-- An option or operand: its name, its letter, the kind of its value if it
takes one, and whether it may be given again or has to be given. -/
structure Parameter where
  name : String
  letter : Option Char
  value : Option ValueKind
  repeats : Bool
  required : Bool

namespace Parameter

/-- An option without a value. -/
def flag (name : String) (letter : Option Char) : Parameter :=
  ⟨name, letter, none, false, false⟩

/-- An option with a value. -/
def option (name : String) (letter : Option Char) (kind : ValueKind) : Parameter :=
  ⟨name, letter, some kind, false, false⟩

/-- An option with a value that may be given several times. -/
def list (name : String) (letter : Option Char) (kind : ValueKind) : Parameter :=
  ⟨name, letter, some kind, true, false⟩

/-- An operand, or an option that has to be given. -/
def needed (name : String) (letter : Option Char) (kind : ValueKind) : Parameter :=
  ⟨name, letter, some kind, false, true⟩

end Parameter

/-- A command. One with subcommands needs one of them. -/
structure CommandSpec where
  name : String
  options : List Parameter
  operand : Option Parameter
  subcommands : List CommandSpec

/-- Why arguments are not read to their end: they are wrong, or they ask for the
version or for help on a command. -/
inductive Stop where
  | usage
  | version (title : String)
  | help (title : String)
  deriving DecidableEq

/-- What has been read of one command: the values by name, the latest first, and
an option or operand that still waits for its value or for its check. -/
structure Level where
  given : List (String × String)
  pending : Option (Parameter × Option String)

namespace Level

/-- Nothing read yet. -/
def start : Level :=
  ⟨[], none⟩

/-- Whether the next argument is the value of an option. -/
def awaits (l : Level) : Bool :=
  match l.pending with
  | some (_, none) => true
  | _ => false

/-- Adds a value. -/
def enter (l : Level) (p : Parameter) (value : String) : Except Stop Level :=
  if !p.repeats && l.given.any (·.1 == p.name) then .error .usage
  else if p.value.all (·.accepts value) then .ok ⟨(p.name, value) :: l.given, none⟩
  else .error .usage

/-- Checks what is pending. -/
def settle (l : Level) : Except Stop Level :=
  match l.pending with
  | none => .ok l
  | some (_, none) => .error .usage
  | some (p, some value) => { l with pending := none }.enter p value

/-- Adds an option that stands alone or with its value attached. -/
def add (l : Level) (p : Parameter) (attached : Option String) : Except Stop Level := do
  let l ← l.settle
  match p.value, attached with
  | none, none => l.enter p ""
  | none, some _ => .error .usage
  | some _, none => .ok { l with pending := some (p, none) }
  | some _, some value => l.enter p value

end Level

/-- The commands and values of a command line; of a value given for several
commands the one for the innermost comes first. -/
structure Given where
  commands : List String
  values : List (String × String)

/-- The options that every command has. -/
def builtinOptions : List Parameter :=
  [.flag "help" (some 'h'), .flag "version" (some 'V')]

/-- The options of a command, with those of all commands. -/
def CommandSpec.allOptions (shared : List Parameter) (c : CommandSpec) : List Parameter :=
  c.options ++ shared ++ builtinOptions

/-- Adds an option, or stops if it asks for help or the version. -/
def addOption (title : String) (l : Level) (p : Parameter) (attached : Option String) :
    Except Stop Level := do
  let l' ← l.add p attached
  if p.name = "help" then .error (.help title)
  else if p.name = "version" then .error (.version title)
  else pure l'

/-- Reads the argument of a long option, without its dashes. -/
def readLong (options : List Parameter) (title : String) (l : Level) (cs : List Char) :
    Except Stop Level :=
  let name := String.ofList (cs.takeWhile (· ≠ '='))
  let attached :=
    match cs.dropWhile (· ≠ '=') with
    | [] => none
    | _ :: value => some (String.ofList value)
  match options.find? (·.name == name) with
  | some p => addOption title l p attached
  | none => .error .usage

/-- Reads the argument of short options, without its dash. -/
def readShort (options : List Parameter) (title : String) :
    Level → List Char → Except Stop Level
  | l, [] => .ok l
  | l, c :: rest =>
    match options.find? (·.letter == some c) with
    | none => .error .usage
    | some p =>
      if p.value.isNone then do
        let l ← addOption title l p none
        readShort options title l rest
      else
        match rest with
        | [] => addOption title l p none
        | '=' :: value => addOption title l p (some (String.ofList value))
        | value => addOption title l p (some (String.ofList value))

/-- Reads an operand of a command. -/
def readOperand (c : CommandSpec) (l : Level) (arg : String) : Except Stop Level := do
  let l ← l.settle
  match c.operand with
  | none => .error .usage
  | some p =>
    if l.given.any (·.1 == p.name) then .error .usage
    else pure { l with pending := some (p, some arg) }

/-- Whether arguments name a command below another one. -/
def namesCommand (c : CommandSpec) : List String → Bool
  | [] => true
  | arg :: rest =>
    match c.subcommands.find? (·.name == arg) with
    | some sub => namesCommand sub rest
    | none => arg == "help" && !c.subcommands.isEmpty && rest.isEmpty

/-- What has been read at the end of the arguments. -/
def finish (c : CommandSpec) (l : Level) : Except Stop Given := do
  let l ← l.settle
  let required := (c.operand.toList ++ c.options).filter (·.required)
  if !c.subcommands.isEmpty || required.any (fun p => !l.given.any (·.1 == p.name)) then
    .error .usage
  else pure ⟨[c.name], l.given⟩

/-- Reads the arguments of a command; `title` is its full name, and `literal`
says that everything is an operand. -/
def parseFrom (shared : List Parameter) :
    CommandSpec → String → Level → Bool → List String → Except Stop Given
  | c, _, l, _, [] => finish c l
  | c, title, l, literal, arg :: rest =>
    let sub? :=
      if literal || l.awaits then none else c.subcommands.find? (·.name == arg)
    match sub? with
    | some sub => do
      let inner ← parseFrom shared sub (title ++ "-" ++ sub.name) .start false rest
      let l ← l.settle
      pure ⟨c.name :: inner.commands, inner.values ++ l.given⟩
    | none =>
      if literal then do
        let l ← readOperand c l arg
        parseFrom shared c title l true rest
      else if arg == "help" && !l.awaits && !c.subcommands.isEmpty then
        .error (if namesCommand c rest then .help title else .usage)
      else
        match arg.toList with
        | ['-', '-'] => parseFrom shared c title l true rest
        | '-' :: '-' :: cs => do
          let l ← readLong (c.allOptions shared) title l cs
          parseFrom shared c title l false rest
        | '-' :: x :: cs => do
          let l ← readShort (c.allOptions shared) title l (x :: cs)
          parseFrom shared c title l false rest
        | _ =>
          match l.pending with
          | some (p, none) =>
            parseFrom shared c title { l with pending := some (p, some arg) } false rest
          | _ => do
            let l ← readOperand c l arg
            parseFrom shared c title l false rest

/-- Reads the arguments of a program; `shared` are the options of all its
commands. -/
def parse (program : CommandSpec) (shared : List Parameter) (args : List String) :
    Except Stop Given :=
  parseFrom shared program program.name .start false args

end ProbeCampaign.CommandLine
