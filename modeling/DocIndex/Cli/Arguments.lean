import DocIndex.Data.Show
import DocIndex.Text.Integer

/-!
# Command-line arguments

A parser reads a command line by a grammar of options and at most one positional
argument. Each argument is first classified: the first `--` separates, and everything after
it is plain; a text that starts with `-` is an option when it names one, when it is a
unique prefix of a long option's name, or when it has the form `-xREST` of a one-letter
option `-x`; `--name=value` gives a long option its value. A text of one dash, a negative
number or a text with a blank in it is plain, and any other text starting with `-` is an
unknown option, set aside as unrecognized.

Arguments are then consumed from the left. Plain arguments before an option go to the
positional while it takes them; an option takes its value from the next argument, which
must be plain; one-letter flags may be written together (`-vh`). A later option overrides
an earlier one. The positional takes exactly one argument, at most one, or all the rest
(a subcommand with its own arguments); after consuming, a positional that needs an
argument and got none is an error. A positional that takes one or at most one argument
drops the separator from what it takes; one that takes the rest keeps it, so a separator
in front of a subcommand is read as the subcommand's name. The help option prints the help
and stops.

Errors stop the parse with status 2 and print the usage and the message; help stops with
status 0 and prints the help on standard output. The help lays out each option and the
positional with its text in a column that starts two places after the longest
invocation, at most 24 places in.
-/

namespace DocIndex.Cli

open DocIndex.Data DocIndex.Text

/-- What an option does when it is given. -/
inductive OptionRole where
  | help
  | flag
  | text (metavar : String)
  | integer (metavar : String)
  deriving DecidableEq

/-- An option of a grammar. -/
structure OptionSpec where
  names : List String
  dest : String
  role : OptionRole
  help : String

/-- How many arguments a positional takes. -/
inductive Arity where
  | one
  | optional
  | rest
  deriving DecidableEq

/-- The positional argument of a grammar. -/
structure PositionalSpec where
  dest : String
  arity : Arity
  fallback : String := ""
  display : String
  help : String := ""
  entries : List (String × String) := []

/-- A grammar: the program name that messages use, a description, the options and the
positional, if any. -/
structure ParserSpec where
  prog : String
  description : String := ""
  options : List OptionSpec
  positional : Option PositionalSpec := none

/-- A value a parse assigned. -/
inductive Assigned where
  | text (value : String)
  | integer (value : Int)
  | flag
  | words (values : List String)

/-- How a parse stops early: an exit status and what is printed. -/
structure Exit where
  code : Nat
  stdout : String := ""
  stderr : String := ""

/-- Spaces. -/
def spaces (count : Nat) : String :=
  String.ofList (List.replicate count ' ')

/-- A text padded with spaces on the right to a width. -/
def padRight (text : String) (width : Nat) : String :=
  text ++ spaces (width - text.length)

namespace OptionSpec

/-- How the usage writes an option. -/
def usagePart (option : OptionSpec) : String :=
  let name := option.names.headD ""
  match option.role with
  | .help | .flag => "[" ++ name ++ "]"
  | .text metavar | .integer metavar => "[" ++ name ++ " " ++ metavar ++ "]"

/-- How the help writes an option. -/
def invocation (option : OptionSpec) : String :=
  match option.role with
  | .help | .flag => ", ".intercalate option.names
  | .text metavar | .integer metavar => ", ".intercalate (option.names.map (· ++ " " ++ metavar))

/-- How error messages name an option. -/
def argumentName (option : OptionSpec) : String :=
  "/".intercalate option.names

/-- Whether an option takes a value. -/
def takesValue (option : OptionSpec) : Bool :=
  match option.role with
  | .help | .flag => false
  | .text _ | .integer _ => true

end OptionSpec

/-- How the usage writes a positional. -/
def PositionalSpec.usagePart (positional : PositionalSpec) : String :=
  match positional.arity with
  | .one => positional.display
  | .optional => "[" ++ positional.display ++ "]"
  | .rest => positional.display ++ " ..."

namespace ParserSpec

/-- The usage line. -/
def usage (spec : ParserSpec) : String :=
  let parts := spec.options.map OptionSpec.usagePart ++
    (spec.positional.map PositionalSpec.usagePart).toList
  "usage: " ++ spec.prog ++ String.join (parts.map (" " ++ ·))

/-- The place where help texts start: two places after the longest invocation, indented,
and at most 24. -/
def helpPosition (spec : ParserSpec) : Nat :=
  let lengths := spec.options.map (·.invocation.length) ++
    (spec.positional.map fun p => p.display.length :: p.entries.map (·.1.length)).getD []
  min (lengths.foldl max 0 + 4) 24

/-- One line of help: an invocation at an indent, with its text in the help column or on
the next line when the invocation reaches it. -/
def helpLine (position indent : Nat) (invocation help : String) : String :=
  let width := position - indent - 2
  if help.isEmpty then spaces indent ++ invocation ++ "\n"
  else if invocation.length ≤ width then
    spaces indent ++ padRight invocation width ++ "  " ++ help ++ "\n"
  else spaces indent ++ invocation ++ "\n" ++ spaces position ++ help ++ "\n"

/-- The help text. -/
def helpText (spec : ParserSpec) : String :=
  let position := spec.helpPosition
  let described := if spec.description.isEmpty then "" else spec.description ++ "\n\n"
  let positionals := match spec.positional with
    | some p =>
      "positional arguments:\n" ++ helpLine position 2 p.display p.help ++
        String.join (p.entries.map fun (name, help) => helpLine position 4 name help) ++ "\n"
    | none => ""
  spec.usage ++ "\n\n" ++ described ++ positionals ++ "options:\n" ++
    String.join (spec.options.map fun o => helpLine position 2 o.invocation o.help)

/-- Stop with an error message. -/
def fail (spec : ParserSpec) (message : String) : Exit :=
  { code := 2, stderr := spec.usage ++ "\n" ++ spec.prog ++ ": error: " ++ message ++ "\n" }

/-- The option strings with their options, in order. -/
def optionNames (spec : ParserSpec) : List (String × OptionSpec) :=
  spec.options.flatMap fun option => option.names.map fun name => (name, option)

end ParserSpec

/-- How an argument reads. -/
inductive Shape where
  | separator
  | plain
  | option (spec : Option OptionSpec) (name : String) (equals : Bool) (explicit : Option String)

/-- Whether a shape is the separator. -/
def Shape.isSeparator : Shape → Bool
  | .separator => true
  | _ => false

/-- Whether a shape is plain. -/
def Shape.isPlain : Shape → Bool
  | .plain => true
  | _ => false

/-- Whether a shape is an option. -/
def Shape.isOption : Shape → Bool
  | .option .. => true
  | _ => false

/-- A text cut at its first equals sign, when it has one. -/
def cutAtEquals (text : String) : String × Option String :=
  let chars := text.toList
  match chars.findIdx? (· = '=') with
  | some i => (String.ofList (chars.take i), some (String.ofList (chars.drop (i + 1))))
  | none => (text, none)

/-- Whether a text is a negative number: a minus and decimal digits, with at most one point
before the last digit, and at most one line break after them. -/
def isNegativeNumber (text : String) : Bool :=
  let isDigit := fun c => (digitValue? c).isSome
  let chars := text.toList
  let chars := if chars.getLast? = some '\n' then chars.dropLast else chars
  match chars with
  | '-' :: rest =>
    let whole := rest.takeWhile isDigit
    let after := rest.drop whole.length
    (!rest.isEmpty && after.isEmpty) ||
      (match after with
        | '.' :: fraction => !fraction.isEmpty && fraction.all isDigit
        | _ => false)
  | _ => false

namespace ParserSpec

/-- The readings of an argument as an option given by a prefix of its name, or as a
one-letter option with its value attached. -/
def optionReadings (spec : ParserSpec) (arg : String) : List Shape :=
  match arg.toList with
  | '-' :: '-' :: _ =>
    let (stem, explicit) := cutAtEquals arg
    (spec.optionNames.filter fun (name, _) => name.startsWith stem).map fun (name, option) =>
      .option (some option) name explicit.isSome explicit
  | '-' :: c :: rest =>
    let short := String.ofList ['-', c]
    spec.optionNames.filterMap fun (name, option) =>
      if name == short then some (.option (some option) name false (some (String.ofList rest)))
      else if name.startsWith arg then some (.option (some option) name false none)
      else none
  | _ => []

/-- How an argument reads, or an error for an ambiguous prefix. -/
def classify (spec : ParserSpec) (arg : String) : Except String Shape :=
  if arg.isEmpty || !arg.startsWith "-" then .ok .plain
  else match spec.optionNames.lookup arg with
  | some option => .ok (.option (some option) arg false none)
  | none =>
    if arg.length = 1 then .ok .plain
    else
      let (stem, explicit) := cutAtEquals arg
      match explicit, spec.optionNames.lookup stem with
      | some value, some option => .ok (.option (some option) stem true (some value))
      | _, _ =>
        match spec.optionReadings arg with
        | [reading] => .ok reading
        | reading :: others =>
          let names := (reading :: others).filterMap fun
            | .option _ name _ _ => some name
            | _ => none
          .error ("ambiguous option: " ++ arg ++ " could match " ++ ", ".intercalate names)
        | [] =>
          if isNegativeNumber arg || arg.contains ' ' then .ok .plain
          else .ok (.option none arg false none)

/-- How each argument reads: after the first `--` everything is plain. -/
def classifyAll (spec : ParserSpec) : List String → Except String (List Shape)
  | [] => .ok []
  | arg :: rest =>
    if arg == "--" then .ok (.separator :: rest.map fun _ => .plain)
    else do
      let shape ← spec.classify arg
      let others ← spec.classifyAll rest
      pure (shape :: others)

end ParserSpec

/-- How many of the arguments, read as these shapes, a positional takes from the front;
none when it cannot take them. -/
def matchPositional (arity : Arity) (shapes : List Shape) : Option Nat :=
  let leading := (shapes.takeWhile Shape.isSeparator).length
  let after := shapes.drop leading
  let trailing (more : List Shape) := (more.takeWhile Shape.isSeparator).length
  match arity, after with
  | .one, .plain :: more => some (leading + 1 + trailing more)
  | .one, _ => none
  | .optional, .plain :: more => some (leading + 1 + trailing more)
  | .optional, _ => some leading
  | .rest, .plain :: _ => some shapes.length
  | .rest, _ => none

/-- What a parse has done so far: the values assigned (the latest first), the
destinations given, the unrecognized arguments, and whether the positional was taken. -/
structure Progress where
  assigned : List (String × Assigned) := []
  seen : List String := []
  extras : List String := []
  positionalTaken : Bool := false

/-- Record a value. -/
def Progress.assign (progress : Progress) (dest : String) (value : Assigned) : Progress :=
  { progress with assigned := (dest, value) :: progress.assigned, seen := dest :: progress.seen }

namespace ParserSpec

/-- Take an option with its values. -/
def takeOption (spec : ParserSpec) (progress : Progress) (option : OptionSpec)
    (values : List String) : Except Exit Progress :=
  match option.role with
  | .help => .error { code := 0, stdout := spec.helpText }
  | .flag => .ok (progress.assign option.dest .flag)
  | .text _ => .ok (progress.assign option.dest (.text (values.headD "")))
  | .integer _ =>
    let value := values.headD ""
    match readInteger value with
    | some n => .ok (progress.assign option.dest (.integer n))
    | none => .error (spec.fail ("argument " ++ option.argumentName ++ ": invalid int value: " ++
        quoteText value))

/-- Take options in order. -/
def takeOptions (spec : ParserSpec) (progress : Progress) :
    List (OptionSpec × List String) → Except Exit Progress
  | [] => .ok progress
  | (option, values) :: rest => do
    let next ← spec.takeOption progress option values
    spec.takeOptions next rest

/-- The options given in one argument of one-letter flags written together: each flag with
its values, and what could not be read. `fuel` bounds the letters. -/
def clusterOptions (spec : ParserSpec) (shapesAfter : List Shape) (argsAfter : List String) :
    Nat → OptionSpec → String → Bool → Option String →
    Except Exit (List (OptionSpec × List String) × Nat × Option String)
  | 0, _, _, _, _ => .ok ([], 0, none)
  | fuel + 1, option, name, equals, explicit =>
    let ignored := fun (value : String) => Except.error (spec.fail ("argument " ++
      option.argumentName ++ ": ignored explicit argument " ++ quoteText value))
    match explicit with
    | none =>
      if option.takesValue then
        match shapesAfter, argsAfter with
        | .plain :: _, value :: _ => .ok ([(option, [value])], 1, none)
        | _, _ => .error (spec.fail ("argument " ++ option.argumentName ++
            ": expected one argument"))
      else .ok ([(option, [])], 0, none)
    | some value =>
      if option.takesValue then .ok ([(option, [value])], 0, none)
      else if name.startsWith "--" || value.isEmpty then ignored value
      else if equals || value.startsWith "-" then ignored value
      else
        let next := "-" ++ String.ofList (value.toList.take 1)
        let rest := String.ofList (value.toList.drop 1)
        match spec.optionNames.lookup next with
        | none => .ok ([(option, [])], 0, some ("-" ++ value))
        | some following => do
          let (readings, explicitArg) :=
            if rest.isEmpty then (false, none)
            else if rest.startsWith "=" then (true, some (String.ofList (rest.toList.drop 1)))
            else (false, some rest)
          let (more, used, unread) ←
            spec.clusterOptions shapesAfter argsAfter fuel following next readings explicitArg
          pure ((option, []) :: more, used, unread)

/-- Consume the option at the front of the arguments: the progress after it and how many
arguments it used. -/
def consumeOption (spec : ParserSpec) (progress : Progress) (shapes : List Shape)
    (args : List String) : Except Exit (Progress × Nat) :=
  match shapes, args with
  | .option none _ _ _ :: _, arg :: _ =>
    .ok ({ progress with extras := progress.extras ++ [arg] }, 1)
  | .option (some option) name equals explicit :: shapesAfter, arg :: argsAfter => do
    let (taken, used, unread) ← spec.clusterOptions shapesAfter argsAfter (arg.length + 1)
      option name equals explicit
    let next ← spec.takeOptions progress taken
    pure ({ next with extras := next.extras ++ unread.toList }, 1 + used)
  | _, _ => .ok (progress, 0)

/-- Consume the positional from the front of the arguments, if it is still to be taken and
can take them: the progress after it and how many arguments it used. -/
def consumePositional (spec : ParserSpec) (progress : Progress) (shapes : List Shape)
    (args : List String) : Progress × Nat :=
  match spec.positional with
  | none => (progress, 0)
  | some positional =>
    if progress.positionalTaken then (progress, 0)
    else match matchPositional positional.arity shapes with
    | none => (progress, 0)
    | some count =>
      let slice := args.take count
      let sliceShapes := shapes.take count
      let values := match positional.arity with
        | .rest => slice
        | _ => if sliceShapes.any Shape.isSeparator then slice.erase "--" else slice
      let value : Assigned := match positional.arity, values with
        | .rest, _ => .words values
        | _, value :: _ => .text value
        | _, [] => .text positional.fallback
      ({ progress.assign positional.dest value with positionalTaken := true }, count)

/-- Consume arguments from the left while an option lies ahead: the positional takes the
plain arguments before an option while it can, the rest of them are unrecognized, and the
option is consumed. Returns the progress and the arguments left. -/
def consumeWhileOptions (spec : ParserSpec) :
    Nat → Progress → List Shape → List String → Except Exit (Progress × List Shape × List String)
  | 0, progress, shapes, args => .ok (progress, shapes, args)
  | fuel + 1, progress, shapes, args =>
    if !shapes.any Shape.isOption then .ok (progress, shapes, args)
    else if (shapes.head?.map Shape.isOption).getD false then do
      let (next, used) ← spec.consumeOption progress shapes args
      spec.consumeWhileOptions fuel next (shapes.drop used) (args.drop used)
    else
      let (next, used) := spec.consumePositional progress shapes args
      if used > 0 then spec.consumeWhileOptions fuel next (shapes.drop used) (args.drop used)
      else
        let before := (shapes.takeWhile fun shape => !shape.isOption).length
        spec.consumeWhileOptions fuel
          { next with extras := next.extras ++ args.take before }
          (shapes.drop before) (args.drop before)

/-- Parse arguments by the grammar: the values assigned, the latest first, and the
unrecognized arguments. -/
def parse (spec : ParserSpec) (args : List String) :
    Except Exit (List (String × Assigned) × List String) := do
  let shapes ← match spec.classifyAll args with
    | .ok shapes => pure shapes
    | .error message => throw (spec.fail message)
  let (progress, shapes, rest) ←
    spec.consumeWhileOptions (2 * args.length + 1) {} shapes args
  let (progress, used) := spec.consumePositional progress shapes rest
  let extras := progress.extras ++ rest.drop used
  if let some positional := spec.positional then
    if positional.arity != .optional && !progress.seen.contains positional.dest then
      throw (spec.fail ("the following arguments are required: " ++ positional.dest))
  pure (progress.assigned, extras)

end ParserSpec

end DocIndex.Cli
