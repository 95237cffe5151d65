/-!
# Options and arguments

* `OptionForm`: an option that a command takes.
* `scan`: the options and the arguments of a command, in any order. Two dashes end the options.
* `leading`: the arguments of a group of commands, before which options of the group may stand.
-/

namespace Electorate.CommandLine

/-- An option that a command takes. -/
structure OptionForm where
  /-- The name behind two dashes. -/
  name : String
  /-- The letter behind one dash, of an option with a value. -/
  letter : Option Char
  /-- Whether a value belongs to the option. -/
  hasValue : Bool

/-- The options and arguments of a command. -/
structure Scanned where
  /-- Options by name with their values, in order. -/
  options : List (String × String)
  /-- The arguments, in order. -/
  arguments : List String

namespace Scanned

/-- No options and arguments. -/
def empty : Scanned := ⟨[], []⟩

/-- An option in front of others. -/
def withOption (name value : String) (s : Scanned) : Scanned :=
  { s with options := (name, value) :: s.options }

/-- An argument in front of others. -/
def withArgument (a : String) (s : Scanned) : Scanned :=
  { s with arguments := a :: s.arguments }

/-- All values of an option. -/
def values (s : Scanned) (name : String) : List String :=
  (s.options.filter fun o => o.1 == name).map Prod.snd

/-- The last value of an option. -/
def last? (s : Scanned) (name : String) : Option String := (s.values name).getLast?

/-- Whether an option is there. -/
def has (s : Scanned) (name : String) : Bool := s.options.any fun o => o.1 == name

end Scanned

/-- What a word of a command line is. -/
inductive Word where
  /-- The end of the options. -/
  | stop
  /-- An option with its value, where it has one in the same word. -/
  | option (form : OptionForm) (value : Option String)
  /-- An option that there is not, or one that takes no value but has one. -/
  | misused
  | argument (a : String)

/-- An option given by its name, with a value behind an equals sign. -/
def namedWord (forms : List OptionForm) (body : List Char) : Word :=
  let name := String.ofList (body.takeWhile (· != '='))
  let value :=
    match body.dropWhile (· != '=') with
    | [] => none
    | _ :: rest => some (String.ofList rest)
  match forms.find? (·.name == name) with
  | none => .misused
  | some form => if value.isSome && !form.hasValue then .misused else .option form value

/-- A word of a command line. -/
def Word.of (forms : List OptionForm) (s : String) : Word :=
  match s.toList with
  | ['-', '-'] => .stop
  | '-' :: '-' :: body => namedWord forms body
  | '-' :: c :: rest =>
    match forms.find? (·.letter == some c) with
    | none => .misused
    | some form => .option form (if rest.isEmpty then none else some (String.ofList rest))
  | _ => .argument s

/-- The options and arguments of a command; nothing if an option is misused. -/
def scan (forms : List OptionForm) : List String → Option Scanned
  | [] => some .empty
  | s :: rest =>
    match Word.of forms s with
    | .stop => some ⟨[], rest⟩
    | .misused => none
    | .argument a => (scan forms rest).map (·.withArgument a)
    | .option form (some value) => (scan forms rest).map (·.withOption form.name value)
    | .option form none =>
      if form.hasValue then
        match rest with
        | [] => none
        | value :: rest => (scan forms rest).map (·.withOption form.name value)
      else (scan forms rest).map (·.withOption form.name "")

/-- The words behind the options of a group; nothing if an option stands there, as a group takes
none. -/
def leading : List String → Option (List String)
  | [] => some []
  | s :: rest =>
    match Word.of [] s with
    | .stop => some rest
    | .argument _ => some (s :: rest)
    | _ => none

end Electorate.CommandLine
