import CallHierarchy.Text.Basic

/-! Command lines: options by long or short names, with values behind them, and positional
arguments. -/

namespace CallHierarchy.CommandLine

/-- An option that a program knows. -/
structure Flag where
  long : String
  short : Option Char
  takesValue : Bool
  deriving DecidableEq, Repr

/-- A part of a command line. -/
inductive Item where
  | flag (long : String)
  | option (long : String) (value : String)
  | positional (text : String)
  /-- An option that the program does not know, or one without its value. Nothing follows it. -/
  | malformed
  deriving DecidableEq, Repr

/-- Why a command line leads to nothing else. -/
inductive Stop where
  | version
  | help
  | invalid
  deriving DecidableEq, Repr

/-- Whether an argument can be the value of the option before it. -/
def isValue (argument : String) : Bool :=
  match argument.toList with
  | '-' :: _ :: _ => false
  | _ => true

/-- The text behind an equals sign. -/
def behindEquals : List Char → String
  | '=' :: cs => String.ofList cs
  | cs => String.ofList cs

/-- The parts of a cluster of short options. The last one may still want its value. -/
def cluster (flags : List Flag) : List Char → List Item × Option Flag
  | [] => ([], none)
  | c :: cs =>
    match flags.find? (·.short == some c) with
    | none => ([.malformed], none)
    | some flag =>
      if flag.takesValue then
        if cs.isEmpty then ([], some flag) else ([.option flag.long (behindEquals cs)], none)
      else
        let (items, last) := cluster flags cs
        (.flag flag.long :: items, last)

/-- The part that a long option makes, or the option that still wants its value. -/
def long (flags : List Flag) (cs : List Char) : List Item × Option Flag :=
  let (name, value) := match Text.cutAt '=' cs with
    | none => (cs, none)
    | some (name, value) => (name, some (String.ofList value))
  match flags.find? (·.long == String.ofList name), value with
  | none, _ => ([.malformed], none)
  | some flag, none => if flag.takesValue then ([], some flag) else ([.flag flag.long], none)
  | some flag, some value =>
    if flag.takesValue then ([.option flag.long value], none) else ([.malformed], none)

/-- The parts of a command line. -/
def items (flags : List Flag) : List String → List Item
  | [] => []
  | argument :: rest =>
    let (found, open?) :=
      match argument.toList with
      | '-' :: '-' :: cs => long flags cs
      | '-' :: c :: cs => cluster flags (c :: cs)
      | _ => ([.positional argument], none)
    if argument = "--" then rest.map .positional
    else
      match open?, rest with
      | none, rest => found ++ items flags rest
      | some flag, value :: rest =>
        if isValue value then found ++ .option flag.long value :: items flags rest
        else found ++ [.malformed]
      | some _, [] => found ++ [.malformed]

end CallHierarchy.CommandLine
