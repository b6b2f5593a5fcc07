import Aliquot.CommandLine.Task
import Aliquot.CommandLine.Word
import Aliquot.SignMagnitude.Text

/-!
# Invocations

A command line names settings, a mode and the integers of the mode. Words are taken from left to
right, so the first request for help or the first error decides how a command line ends that names
no invocation.

Source: `build_parser` in `bezout.cli`. The parser belongs to the runtime, and its rules are those
of version 3.11.7: a `--` is dropped where it is attached to an option as its value, or given for an
operand behind the first `--`, and leaves nothing in its place. From version 3.11.10 on a `--` that
is attached to an option is its value.
-/

namespace Aliquot.CommandLine

/-- How a command line ends that names no invocation. -/
inductive Refusal where
  | help
  | misuse
  deriving DecidableEq, Repr

/-- A task with its settings. -/
structure Invocation where
  settings : Settings
  /-- The task. A further `--` behind the first one takes the place of an operand without giving an
  integer. -/
  task : Task (Option Int)
  count? : Option Int
  start? : Option Int
  deriving DecidableEq, Repr

/-- What is known of an invocation while the words behind the mode are read. -/
structure Draft where
  mode : Mode
  operands : List (Option Int) := []
  count? : Option Int := some 1
  start? : Option Int := some 0
  deriving DecidableEq, Repr

/-- The integer that a word denotes. -/
def readInteger (text : String) : Except Refusal Int :=
  match Text.readInteger (some Text.digitLimit) text 10 with
  | .ok k => .ok k
  | .error _ => .error .misuse

/-- What an attached text or a word gives; `--` gives nothing. -/
def unlessDashes {β : Type} (read : String → Except Refusal β) (text : String) :
    Except Refusal (Option β) :=
  if text = "--" then .ok none else some <$> read text

/-- The representation on offer that a word stands for. -/
def readRepresentation (text : String) : Except Refusal Rep :=
  match representation? text with
  | some rep => .ok rep
  | none => .error .misuse

/-- The settings with the option `name` set to the value of `text`. -/
def Settings.set (s : Settings) (name text : String) : Except Refusal Settings :=
  match name with
  | "--type" => do return { s with rep? := ← unlessDashes readRepresentation text }
  | "--log_file" => do return { s with logFile? := ← unlessDashes pure text }
  | _ => do return { s with verbosity? := ← unlessDashes readInteger text }

/-- The draft with the option `name` of its mode set to the value of `text`. -/
def Draft.set (d : Draft) (name text : String) : Except Refusal Draft :=
  match name with
  | "--count" => do return { d with count? := ← unlessDashes readInteger text }
  | _ => do return { d with start? := ← unlessDashes readInteger text }

/-- The value of an option, attached or in the next word, and the words after it. -/
def optionValue (attached? : Option String) (words : List Word) :
    Except Refusal (String × List Word) :=
  match attached?, words with
  | some text, words => .ok (text, words)
  | none, word :: words => if word.role = .operand then .ok (word.text, words) else .error .misuse
  | none, [] => .error .misuse

/-- The words left by `optionValue` are no more than the ones given. -/
theorem length_le_of_optionValue_eq_ok {attached? : Option String} {words rest : List Word}
    {text : String} (h : optionValue attached? words = .ok (text, rest)) :
    rest.length ≤ words.length := by
  unfold optionValue at h
  split at h
  · cases h
    exact Nat.le_refl _
  · split at h
    · cases h
      exact Nat.le_succ _
    · cases h
  · cases h

/-- What stands before the mode. -/
structure Front where
  settings : Settings
  /-- Some word looked like an option and was none. -/
  strange : Bool
  modeName : String
  /-- The words behind the mode. -/
  rest : List String

/-- Takes the settings up to the mode. -/
def readFront (s : Settings) (strange : Bool) (words : List Word) : Except Refusal Front :=
  match words with
  | [] => .error .misuse
  | word :: words =>
    match word.role with
    | .operand => .ok ⟨s, strange, word.text, words.map Word.text⟩
    | .terminator => .error .misuse
    | .unknown => readFront s true words
    | .help sound => .error (if sound then .help else .misuse)
    | .option name attached? =>
      match _h : optionValue attached? words with
      | .error e => .error e
      | .ok (text, rest) => do readFront (← s.set name text) strange rest
termination_by words.length
decreasing_by
  · simp
  · have := length_le_of_optionValue_eq_ok _h
    simp only [List.length_cons]
    omega

/-- Adds an operand, unless the mode has all its operands. -/
def Draft.push (d : Draft) (operand : Except Refusal (Option Int)) : Except Refusal Draft := do
  if d.operands.length < d.mode.arity then
    return { d with operands := d.operands ++ [← operand] }
  else throw .misuse

/-- Takes the operands behind `--`, where a further `--` gives no integer. -/
def readRest (d : Draft) (texts : List String) : Except Refusal Draft :=
  texts.foldlM (fun d text ↦ d.push (unlessDashes readInteger text)) d

/-- Takes the words behind the first `--`. It belongs to the operand in front of it, or else to the
one that has to follow. -/
def readBehindDashes (d : Draft) (afterOperand : Bool) (texts : List String) :
    Except Refusal Draft :=
  match afterOperand, texts with
  | true, texts => readRest d texts
  | false, text :: texts => do readRest (← d.push (some <$> readInteger text)) texts
  | false, [] => .error .misuse

/-- Takes operands and options of the mode. What the mode does not take counts as misuse, but only
after the words that follow. -/
def readBack (d : Draft) (afterOperand strange : Bool) (words : List Word) :
    Except Refusal Draft :=
  match words with
  | [] => if strange then .error .misuse else .ok d
  | word :: words =>
    match word.role with
    | .operand =>
      if d.operands.length < d.mode.arity then do
        readBack (← d.push (some <$> readInteger word.text)) true strange words
      else readBack d false true words
    | .terminator => do
      let d ← readBehindDashes d afterOperand (words.map Word.text)
      if strange then .error .misuse else .ok d
    | .unknown => readBack d false true words
    | .help sound => .error (if sound then .help else .misuse)
    | .option name attached? =>
      match _h : optionValue attached? words with
      | .error e => .error e
      | .ok (text, rest) => do readBack (← d.set name text) false strange rest
termination_by words.length
decreasing_by
  · simp
  · simp
  · simp
  · have := length_le_of_optionValue_eq_ok _h
    simp only [List.length_cons]
    omega

/-- The invocation that a command line names, by the rules of version 3.11.7 of the parser. -/
def parse (args : List String) : Except Refusal Invocation := do
  let some words := words? globalOptions args | throw .misuse
  let front ← readFront {} false words
  let some mode := Mode.ofName? front.modeName | throw .misuse
  let some words := words? mode.options front.rest | throw .misuse
  let draft ← readBack { mode } false false words
  let some task := Task.ofList? mode draft.operands | throw .misuse
  if front.strange then throw .misuse
  return { settings := front.settings, task, count? := draft.count?, start? := draft.start? }

end Aliquot.CommandLine
