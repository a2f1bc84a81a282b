import Assessment.Text.Numeral

/-!
# Command lines

A command line names a command, the files it works on, and options: `Cli` with its `Commands`
(section B.6 of the specification). The options of all commands may stand before the command and
after it; where they stand in both places the later one counts. No option may be given twice in one
place, and none may be unknown.

`readArguments` gives the request that a command line makes: a run, a text of help, or the version.
What is not understood is none, and its status is two.
-/

namespace Assessment.CommandLine

/-- Lines with their ends. -/
def joinLines (ls : List String) : String := String.join (ls.map fun l => l ++ "\n")

/-- The form of reports. -/
inductive Format where
  | text
  | json
deriving DecidableEq, Repr

/-- The format of a name. -/
def Format.ofName? : String → Option Format
  | "text" => some .text
  | "json" => some .json
  | _ => none

/-- The options of all commands. -/
structure Options where
  output : Option Format
  quiet : Bool
  config : Option String
  seed : Option Nat
deriving DecidableEq, Repr

/-- No options. -/
def Options.none : Options := ⟨Option.none, false, Option.none, Option.none⟩

/-- Options with others that count before them. -/
def Options.under (outer inner : Options) : Options :=
  ⟨inner.output <|> outer.output, inner.quiet || outer.quiet, inner.config <|> outer.config,
    inner.seed <|> outer.seed⟩

/-- What is asked for. -/
inductive Command where
  | item (file : String) (responses : Option String)
  | test (file session : String)
deriving DecidableEq, Repr

/-- The topic of a help text. -/
inductive Topic where
  | program
  | item
  | test
  | help
deriving DecidableEq, Repr

/-- A command line that is understood. -/
inductive Request where
  | run (options : Options) (command : Command)
  | help (topic : Topic)
  | version
deriving DecidableEq, Repr

/-! ## Words -/

/-- A word of a command line. -/
inductive Word where
  /-- A long option, with its value when an equals sign gives one. -/
  | option (name : String) (value : Option String)
  /-- The mark after which words are no options. -/
  | separator
  /-- A short option. -/
  | short (name : String)
  | plain (s : String)
deriving DecidableEq, Repr

/-- The parts of an option around its first equals sign. -/
def splitAtEquals (s : List Char) : List Char × Option (List Char) :=
  match s with
  | [] => ([], none)
  | '=' :: rest => ([], some rest)
  | c :: rest =>
    let (name, value) := splitAtEquals rest
    (c :: name, value)

/-- The kind of a word. -/
def Word.ofString (s : String) : Word :=
  match s.toList with
  | ['-'] => .plain s
  | ['-', '-'] => .separator
  | '-' :: '-' :: rest =>
    let (name, value) := splitAtEquals rest
    .option (String.ofList name) (value.map String.ofList)
  | '-' :: rest => .short (String.ofList rest)
  | _ => .plain s

/-! ## Options -/

/-- The value of an option, given with it or as the next word, and the words after it. -/
def optionValue? (value : Option String) (rest : List String) : Option (String × List String) :=
  match value with
  | some v => some (v, rest)
  | none =>
    match rest with
    | next :: rest =>
      match Word.ofString next with
      | .plain v => some (v, rest)
      | _ => none
    | [] => none

/-- A path, which is not empty. -/
def path? (s : String) : Option String := if s.isEmpty then none else some s

/-- A whole number of 64 bits without minus sign. -/
def seed? (s : String) : Option Nat :=
  let digits := match s.toList with
    | '+' :: rest => rest
    | cs => cs
  if digits.isEmpty || !digits.all Text.isDigit then none
  else
    let n := Text.digitsValue 0 digits
    if n < UInt64.size then some n else none

/-- The options with one more of those of all commands, and the words after it. -/
def Options.add? (o : Options) (name : String) (value : Option String) (rest : List String) :
    Option (Options × List String) :=
  match name with
  | "quiet" =>
    if o.quiet || value.isSome then Option.none else some ({ o with quiet := true }, rest)
  | "output" => do
    let (v, rest) ← optionValue? value rest
    let f ← Format.ofName? v
    if o.output.isSome then Option.none else some ({ o with output := some f }, rest)
  | "config" => do
    let (v, rest) ← optionValue? value rest
    let p ← path? v
    if o.config.isSome then Option.none else some ({ o with config := some p }, rest)
  | "seed" => do
    let (v, rest) ← optionValue? value rest
    let n ← seed? v
    if o.seed.isSome then Option.none else some ({ o with seed := some n }, rest)
  | _ => Option.none

/-! ## Commands -/

/-- The commands that work on a document. -/
inductive CommandName where
  | item
  | test
deriving DecidableEq, Repr

/-- The option that names the second file of a command. -/
def CommandName.fileOption : CommandName → String
  | .item => "responses"
  | .test => "session"

/-- The topic of a command. -/
def CommandName.topic : CommandName → Topic
  | .item => .item
  | .test => .test

/-- What has been read of a command. -/
structure Draft where
  options : Options
  file : Option String
  second : Option String
deriving DecidableEq, Repr

/-- The command of a draft, when it has the files it needs. -/
def Draft.command? (name : CommandName) (d : Draft) : Option Command :=
  match name, d.file, d.second with
  | .item, some file, responses => some (.item file responses)
  | .test, some file, some session => some (.test file session)
  | _, _, _ => none

/-- The draft with its document. -/
def Draft.addFile? (d : Draft) (s : String) : Option Draft :=
  if d.file.isSome then none else (path? s).map fun p => { d with file := some p }

/-- The words of a command, put into a draft. -/
def readCommand (outer : Options) (name : CommandName) :
    Nat → Bool → Draft → List String → Option Request
  | 0, _, _, _ => none
  | _ + 1, _, d, [] => (d.command? name).map fun c => .run (outer.under d.options) c
  | fuel + 1, false, d, w :: rest =>
    match Word.ofString w with
    | .separator => readCommand outer name fuel true d rest
    | .plain s => (d.addFile? s).bind fun d => readCommand outer name fuel false d rest
    | .short "h" => some (.help name.topic)
    | .short _ => none
    | .option "help" none => some (.help name.topic)
    | .option option value =>
      if option = name.fileOption then
        (optionValue? value rest).bind fun (v, rest) =>
          (path? v).bind fun p =>
            if d.second.isSome then none
            else readCommand outer name fuel false { d with second := some p } rest
      else
        (d.options.add? option value rest).bind fun (options, rest) =>
          readCommand outer name fuel false { d with options } rest
  | fuel + 1, true, d, w :: rest =>
    (d.addFile? w).bind fun d => readCommand outer name fuel true d rest

/-- The topic that a request for help names. -/
def helpTopic? : List String → Option Topic
  | [] => some .program
  | ["item"] => some .item
  | ["test"] => some .test
  | ["help"] => some .help
  | _ => none

/-- The words of a command line after the options read so far. -/
def readProgram : Nat → Options → List String → Option Request
  | 0, _, _ => none
  | _ + 1, _, [] => none
  | fuel + 1, o, w :: rest =>
    match Word.ofString w with
    | .plain "item" => readCommand o .item (rest.length + 1) false ⟨.none, none, none⟩ rest
    | .plain "test" => readCommand o .test (rest.length + 1) false ⟨.none, none, none⟩ rest
    | .plain "help" => (helpTopic? rest).map .help
    | .plain _ | .separator => none
    | .short "h" => some (.help .program)
    | .short "V" => some .version
    | .short _ => none
    | .option "help" none => some (.help .program)
    | .option "version" none => some .version
    | .option option value =>
      (o.add? option value rest).bind fun (o, rest) => readProgram fuel o rest

/-- What a command line asks for; `none` when it is not understood. -/
def readArguments (args : List String) : Option Request :=
  readProgram (args.length + 1) .none args

end Assessment.CommandLine
