/-
The arguments of the terminal program.

Options come first. `-m V`, `--mode V`, `--mode=V` ask for a mode, once at
most; `-h` and `--help` ask for help, `-V` and `--version` for the version; an
argument `--` ends the options. The first argument that is none of these is an
expression, even if it starts with a hyphen, and so is everything after it.

Letters of short options may stand together behind one hyphen, if all of them
are such letters: then the first one counts, and what follows an `m` is its
mode. A group with any other letter in it is an expression.

A mode that follows its option as an argument of its own may be any text but
another option, and a demand for help or the version takes no value. Whether
the mode is a known one is not checked here.
-/
set_option autoImplicit false

namespace StackCalculator.Terminal

/-! ## Options -/

/-- What one argument says, if it is an option. -/
inductive Choice where
  /-- No more options follow. -/
  | endOfOptions
  /-- A mode is asked for, by the next argument if not by this one. -/
  | mode (attached : Option String)
  | help
  | version
  /-- A value is given to an option that takes none. -/
  | surplusValue
deriving DecidableEq, Repr

namespace Choice

/-- The option named after two hyphens, with the value after an equals sign. -/
def ofLong? (name : List Char) (value : Option String) : Option Choice :=
  if name = "mode".toList then some (mode value)
  else if name = "help".toList then some (if value.isSome then surplusValue else help)
  else if name = "version".toList then some (if value.isSome then surplusValue else version)
  else none

/-- The letters of the short options. -/
def letters : List Char := ['m', 'h', 'V']

/-- The option that a group of letters stands for. -/
def ofLetters? (group : List Char) : Option Choice :=
  if group.all letters.contains then
    match group with
    | 'm' :: [] => some (mode none)
    | 'm' :: rest => some (mode (some (String.ofList rest)))
    | 'h' :: _ => some help
    | 'V' :: _ => some version
    | _ => none
  else none

/-- **The option that an argument is.** -/
def ofArgument? (argument : String) : Option Choice :=
  match argument.toList with
  | ['-', '-'] => some endOfOptions
  | '-' :: '-' :: long =>
    match long.dropWhile (· ≠ '=') with
    | [] => ofLong? long none
    | _ :: value => ofLong? (long.takeWhile (· ≠ '=')) (some (String.ofList value))
  | '-' :: group => ofLetters? group
  | _ => none

end Choice

/-! ## All the arguments -/

/-- What the arguments ask for. -/
inductive Request where
  /-- To evaluate: the mode, if one is asked for, and the expressions; with no
  expression the standard input is read line by line. -/
  | evaluate (mode : Option String) (expressions : List String)
  | help
  | version
deriving DecidableEq, Repr

/-- Reads the arguments after those that asked for `mode`. -/
def readArguments? (mode : Option String) : List String → Option Request
  | [] => some (.evaluate mode [])
  | first :: rest =>
    match Choice.ofArgument? first with
    | none => some (.evaluate mode (first :: rest))
    | some .endOfOptions => some (.evaluate mode rest)
    | some .help => some .help
    | some .version => some .version
    | some .surplusValue => none
    | some (.mode (some value)) =>
      if mode.isSome then none else readArguments? (some value) rest
    | some (.mode none) =>
      match mode, rest with
      | none, value :: others =>
        if (Choice.ofArgument? value).isSome then none else readArguments? (some value) others
      | _, _ => none

/-- **Reads the arguments**; none means that they are no correct use. -/
def Request.ofArguments? (arguments : List String) : Option Request :=
  readArguments? none arguments

end StackCalculator.Terminal
