/-
Command lines: the options and operands of a program, as data from which
both the reading of arguments and the help text are made.

Long options take their value after `=` or as the next argument, short ones
also right behind the letter, and several short switches may share one
dash. The value of an option never starts with a dash, unless it is just
one or stands behind `=`. After `--` everything is an operand.
-/

set_option autoImplicit false

namespace FireNet

/-- What an option does to the options `α` read so far. -/
inductive OptionEffect (α : Type) where
  | switch (set : α → α)
  /-- Takes a value, under this label in the help; `none` refuses it. -/
  | value (label : String) (set : String → α → Option α)
  | help

structure OptionSpec (α : Type) where
  long : String
  short : Option Char
  about : String
  effect : OptionEffect α
  /-- Whether it may be given several times. -/
  repeatable : Bool

/-- The operands of a program, of which there may be several. -/
structure OperandSpec (α : Type) where
  label : String
  about : String
  add : String → α → Option α

/-- All that a program understands. -/
structure CommandLine (α : Type) where
  name : String
  about : String
  /-- What follows the name in the usage line. -/
  usage : String
  operands : Option (OperandSpec α)
  options : List (OptionSpec α)

/-- Why reading stops early. -/
inductive EarlyStop where
  | help
  | misuse
  deriving DecidableEq

namespace CommandLine

variable {α : Type}

-- =============================================================== reading

/-- The options read so far, and the long names of those given. -/
structure Reading (α : Type) where
  options : α
  given : List String

/-- The option that every program has. -/
def helpSpec : OptionSpec α := ⟨"help", some 'h', "Print help", .help, false⟩

/-- All options, help last. -/
def allOptions (c : CommandLine α) : List (OptionSpec α) :=
  c.options ++ [helpSpec]

/-- Takes in an option; refused when its value is, or when it may not be
repeated. -/
def give (o : OptionSpec α) (set : α → Option α) (r : Reading α) :
    Except EarlyStop (Reading α) :=
  if !o.repeatable && r.given.contains o.long then .error .misuse
  else
    match set r.options with
    | some options => .ok ⟨options, o.long :: r.given⟩
    | none => .error .misuse

def operand (c : CommandLine α) (r : Reading α) (text : String) :
    Except EarlyStop (Reading α) :=
  match c.operands with
  | none => .error .misuse
  | some spec =>
    match spec.add text r.options with
    | some options => .ok { r with options := options }
    | none => .error .misuse

/-- What is read after one argument. -/
inductive Progress (α : Type) where
  | complete (r : Reading α)
  /-- The next argument is the value of an option. -/
  | awaits (o : OptionSpec α) (set : String → α → Option α) (r : Reading α)

/-- An argument that starts with two dashes. -/
def readLong (c : CommandLine α) (r : Reading α) (body : List Char) :
    Except EarlyStop (Progress α) := do
  let name := String.ofList (body.takeWhile (· != '='))
  let attached := match body.dropWhile (· != '=') with
    | _ :: value => some (String.ofList value)
    | [] => none
  match c.allOptions.find? (·.long == name), attached with
  | none, _ => throw .misuse
  | some o, some value =>
    match o.effect with
    | .value _ set => .complete <$> give o (set value) r
    | _ => throw .misuse
  | some o, none =>
    match o.effect with
    | .value _ set => pure (.awaits o set r)
    | .switch set => .complete <$> give o (some ∘ set) r
    | .help => throw .help

/-- The letters behind one dash. -/
def readShort (c : CommandLine α) :
    List Char → Reading α → Except EarlyStop (Progress α)
  | [], r => pure (.complete r)
  | letter :: rest, r => do
    match c.allOptions.find? (·.short == some letter) with
    | none => throw .misuse
    | some o =>
      match o.effect with
      | .switch set => readShort c rest (← give o (some ∘ set) r)
      | .help => throw .help
      | .value _ set =>
        match rest with
        | [] => pure (.awaits o set r)
        | '=' :: value => .complete <$> give o (set (String.ofList value)) r
        | value => .complete <$> give o (set (String.ofList value)) r

/-- Whether an argument is read as options, and not as a value. -/
def looksLikeOption (text : String) : Bool := text.startsWith "-" && text != "-"

def readOne (c : CommandLine α) (r : Reading α) (arg : String) :
    Except EarlyStop (Progress α) :=
  match arg.toList with
  | '-' :: '-' :: body => c.readLong r body
  | '-' :: letter :: rest => c.readShort (letter :: rest) r
  | _ => .complete <$> c.operand r arg

def readAll (c : CommandLine α) :
    List String → Reading α → Except EarlyStop (Reading α)
  | [], r => pure r
  | arg :: rest, r =>
    if arg = "--" then rest.foldlM c.operand r
    else do
      match ← c.readOne r arg with
      | .complete r => readAll c rest r
      | .awaits o set r =>
        match rest with
        | [] => throw .misuse
        | value :: rest =>
          if looksLikeOption value then throw .misuse
          else readAll c rest (← give o (set value) r)

/-- The options that arguments state, over those at the start. -/
def read (c : CommandLine α) (start : α) (args : List String) :
    Except EarlyStop α :=
  (c.readAll args ⟨start, []⟩).map (·.options)

-- ================================================================== help

/-- How an option is shown. -/
def shown (o : OptionSpec α) : String :=
  let label := match o.effect with
    | .value label _ => s!" <{label}>"
    | _ => ""
  let short := match o.short with
    | some letter => s!"-{letter}, "
    | none => "    "
  s!"  {short}--{o.long}{label}"

/-- A text filled up with blanks. -/
def padded (text : String) (width : Nat) : String :=
  text ++ String.ofList (List.replicate (width - text.length) ' ')

/-- The options with their descriptions beside them. -/
def optionLines (c : CommandLine α) : List String :=
  let width := (c.allOptions.map fun o => (shown o).length).foldl max 0
  c.allOptions.map fun o => padded (shown o) (width + 2) ++ o.about

def help (c : CommandLine α) : String :=
  let operands := match c.operands with
    | none => []
    | some spec => ["Arguments:", s!"  {spec.label}  {spec.about}", ""]
  let lines := [c.about, "", s!"Usage: {c.name} {c.usage}", ""] ++ operands ++
    ["Options:"] ++ c.optionLines
  String.join (lines.map (· ++ "\n"))

end CommandLine

end FireNet
