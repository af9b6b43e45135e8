/-
# HotSwap.Command.Options -- the grammar of one level of a command line

A level is a row of options, each `--name`, and ends with the arguments or at the
first word that belongs to no option.  A value follows its option as the next
argument or behind an equals sign; an argument that looks like an option is no
value.  An option stands once unless it may be repeated, and every value is checked
as soon as it is read.

`scan` reads a level.  Asking for help, or for the version where that is an option,
ends it at once; anything that the grammar does not know is misuse.
-/
import HotSwap.Settings.Basic

namespace HotSwap.Command

set_option autoImplicit false

/-- What stands behind an option. -/
inductive Takes where
  | nothing
  | text
  | path
  | number
  | oneOf (names : List String)

def Takes.accepts (takes : Takes) (value : String) : Bool :=
  match takes with
  | .nothing => false
  | .text => true
  | .path => !value.isEmpty
  | .number => (Settings.word? value.toList).isSome
  | .oneOf names => names.contains value

structure OptionRule where
  name : String
  takes : Takes
  repeated : Bool := false

/-- The options that were given with their values, in order; the value of an option
that takes nothing is empty. -/
abbrev Given := List (String × String)

/-- How a level ends. -/
inductive Level where
  | misuse
  | help
  | version
  | word (given : Given) (word : String) (rest : List String)
  | finished (given : Given)
  deriving DecidableEq, Repr

/-- A text before and behind its first equals sign, if it has one. -/
def splitAtEquals : List Char → List Char × Option (List Char)
  | [] => ([], none)
  | '=' :: rest => ([], some rest)
  | c :: rest => (c :: (splitAtEquals rest).1, (splitAtEquals rest).2)

inductive Looks where
  | word
  | endOfOptions
  | long (name : String) (value : Option String)
  | short (letter : Char)
  deriving DecidableEq, Repr

/-- What an argument is by its looks; a lone dash is a word. -/
def looks (arg : String) : Looks :=
  match arg.toList with
  | ['-', '-'] => .endOfOptions
  | '-' :: '-' :: rest =>
      let (name, value) := splitAtEquals rest
      .long (String.ofList name) (value.map String.ofList)
  | '-' :: letter :: _ => .short letter
  | _ => .word

/-- Whether an option may be given, after what was given before. -/
def mayFollow (rule : OptionRule) (given : Given) : Bool :=
  rule.repeated || !given.any fun g => g.1 == rule.name

def scan (rules : List OptionRule) (versioned : Bool) (given : Given) : List String → Level
  | [] => .finished given
  | arg :: rest =>
      match looks arg with
      | .word => .word given arg rest
      | .endOfOptions => if rest.isEmpty then .finished given else .misuse
      | .short 'h' => .help
      | .short letter => if versioned && letter == 'V' then .version else .misuse
      | .long "help" none => .help
      | .long name value =>
          if versioned && name == "version" && value.isNone then .version
          else
            match rules.find? fun rule => rule.name == name with
            | none => .misuse
            | some rule =>
                if !mayFollow rule given then .misuse
                else
                  match rule.takes, value with
                  | .nothing, none => scan rules versioned (given ++ [(name, "")]) rest
                  | takes, some v =>
                      if takes.accepts v then scan rules versioned (given ++ [(name, v)]) rest
                      else .misuse
                  | takes, none =>
                      match rest with
                      | [] => .misuse
                      | v :: rest =>
                          if looks v = .word ∧ takes.accepts v then
                            scan rules versioned (given ++ [(name, v)]) rest
                          else .misuse

end HotSwap.Command
