import Aliquot.Text.DecimalDigit

/-!
# Words of a command line

A word of a command line is an operand or names an option. Long options may be abbreviated to any
prefix that fits one of them only, and take their value from behind an equals sign or from the next
word. After the first `--` every word is an operand.

Source: the options of `build_parser` in `bezout.cli`. How words are told apart is a matter of the
runtime's parser, here of version 3.11.7.
-/

namespace Aliquot.CommandLine

/-- What a word does on a command line. -/
inductive Role where
  | operand
  /-- The first `--`. -/
  | terminator
  /-- The option `name`, with the value attached to it if there is one. -/
  | option (name : String) (attached? : Option String)
  /-- A request for help; it is not `sound` when something is attached that help does not take. -/
  | help (sound : Bool)
  /-- A word that looks like an option and is none. -/
  | unknown
  deriving DecidableEq, Repr

/-- A word with its role. -/
structure Word where
  text : String
  role : Role
  deriving DecidableEq, Repr

/-- The long option that asks for help; its short form is `-h`. -/
def helpOption : String := "--help"

/-- Only more letters `h` may follow `-h`, and they may stand behind an equals sign. -/
def isSoundHelp : List Char → Bool
  | '=' :: cs => !cs.isEmpty && cs.all (· == 'h')
  | cs => cs.all (· == 'h')

/-- One digit or more of any script. -/
def isDigits (cs : List Char) : Bool :=
  !cs.isEmpty && cs.all fun c ↦ (Text.decimalDigit? c).isSome

/-- The text behind a minus sign makes a negative number: digits, perhaps with a point before the
last of them, and perhaps a line end. -/
def isNumberTail (cs : List Char) : Bool :=
  let cs := if cs.getLast? = some '\n' then cs.dropLast else cs
  let whole := cs.takeWhile (· ≠ '.')
  match cs.dropWhile (· ≠ '.') with
  | [] => isDigits whole
  | _ :: fraction => (whole.isEmpty || isDigits whole) && isDigits fraction

/-- The part before the first equals sign, and the part behind it if there is one. -/
def splitEquals (cs : List Char) : List Char × Option (List Char) :=
  match cs.dropWhile (· ≠ '=') with
  | [] => (cs, none)
  | _ :: value => (cs.takeWhile (· ≠ '='), some value)

/-- The role of a word that names the option `name`. -/
def optionRole (name : String) (attached? : Option String) : Role :=
  if name = helpOption then .help attached?.isNone else .option name attached?

/-- The role of a word that starts with a dash and names no option in full, among the long options
`names`; nothing when it abbreviates several. -/
def abbreviatedRole? (names : List String) (cs : List Char) : Option Role :=
  let (start, attached?) := splitEquals cs
  let candidates := if start.take 2 = ['-', '-'] then
    names.filter fun name ↦ start.isPrefixOf name.toList else []
  match candidates, cs with
  | [name], _ => some (optionRole name (attached?.map String.ofList))
  | _ :: _ :: _, _ => none
  | [], '-' :: 'h' :: tail => some (.help (isSoundHelp tail))
  | [], cs =>
    if isNumberTail (cs.drop 1) || cs.contains ' ' then some .operand else some .unknown

/-- The role of a word before any `--`, where the options that take a value are `options`; nothing
when it abbreviates several options. -/
def role? (options : List String) (text : String) : Option Role :=
  let names := helpOption :: options
  let cs := text.toList
  let (start, attached?) := splitEquals cs
  let start := String.ofList start
  if cs.head? ≠ some '-' ∨ cs = ['-'] then some .operand
  else if start ∈ names then some (optionRole start (attached?.map String.ofList))
  else abbreviatedRole? names cs

/-- The words of a command line with their roles; nothing when one abbreviates several options. -/
def words? (options : List String) : List String → Option (List Word)
  | [] => some []
  | text :: texts =>
    if text = "--" then some (⟨text, .terminator⟩ :: texts.map (⟨·, .operand⟩))
    else do
      let role ← role? options text
      return ⟨text, role⟩ :: (← words? options texts)

end Aliquot.CommandLine
