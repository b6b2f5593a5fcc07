import Aliquot.Audit.Basic
import Aliquot.CommandLine.Invocation
import Aliquot.Scenarios

/-!
# Running an invocation

A run converts the operands to the chosen representation, computes and makes a document. Its outcome
is what appears on the two streams and in the log, and the exit code: zero for a result, one for a
failure and for a result that reports a disagreement, two for a command line that is not understood.
Options and operands without a value lead to faults that end the run without an outcome of its own.
An audit compares with references that the run is given.

Source: `run_mode`, `main`, `_convert`, `_setup_logging` and `_emit` in `bezout.cli`.
-/

namespace Aliquot.CommandLine

open CheckedInt

/-- A document, and whether it reports agreement throughout. -/
structure Report where
  document : Document
  agrees : Bool := true

variable {α : Type} [CheckedInt α]

/-- The document of a computation, headed by its mode and its operands. -/
def document (mode : Mode) (operands : List (String × Int)) (results : List (String × Document)) :
    Report where
  document := .object (("method", .text mode.name) ::
    operands.map (fun (name, k) ↦ (name, .int k)) ++ results)

/-- The document of a value. -/
def shown (x : α) : Document := .int (toInt x)

/-- The document of a solution with its index. -/
def pairDocument (i : Int) (p : α × α) : Document :=
  .object [("i", .int i), ("x", shown p.1), ("y", shown p.2)]

/-- The first index and the number of the solutions to show. -/
def span (start? count? : Option Int) : Answer (Int × Nat) :=
  match start?, count? with
  | some start, some count => .ok (start, count.toNat)
  | some _, none => .error (.noOperator "+" "int" "list")
  | none, some _ => .error (.cannotAppendToList "int")
  | none, none => .error (.notAnIndex "list")

/-- A family of solutions, from the index `start?` on. -/
def reportFamily (a b c : Int) (x y z : α) (start? count? : Option Int) : Answer Report := do
  let (family, g) ← (Diophantine.solve x y z : Checked (SolutionFamily α × α))
  let (start, count) ← span start? count?
  let pairs ← (family.take start count : Checked (List (α × α)))
  let solutions := pairs.mapIdx fun i p ↦ pairDocument (start + i) p
  return document .diophantine [("a", a), ("b", b), ("c", c)]
    [("gcd", shown g), ("step", .list [shown family.stepX, shown family.stepY]),
      ("solutions", .list solutions)]

/-- The residues that solve a congruence. -/
def reportResidues (a b m : Int) (x y z : α) : Checked Report := do
  let residues ← Congruence.solve x y z
  return document .congruence [("a", a), ("b", b), ("m", m)]
    [("count", .int residues.length), ("solutions", .list (residues.map shown))]

/-- A greatest common divisor and its coefficients. -/
def reportRow (a b : Int) (x y : α) : Checked Report := do
  let row ← Euclid.xgcd x y
  return document .xgcd [("a", a), ("b", b)]
    [("gcd", shown row.value), ("coeff1", shown row.coeff₁), ("coeff2", shown row.coeff₂)]

/-- An integer with the value that it has in the representation of a run. -/
structure Operand (α : Type) where
  int : Int
  value : α

/-- What a task yields in the representation `r`. -/
def compute (ref : References) (r : Rep) (start? count? : Option Int) :
    Task (Operand r.Carrier) → Answer Report
  | .xgcd a b => reportRow a.int b.int a.value b.value
  | .gcd a b => do
    let g ← (Euclid.gcd a.value b.value : Checked r.Carrier)
    return document .gcd [("a", a.int), ("b", b.int)] [("gcd", shown g)]
  | .lcm a b => do
    let l ← (Euclid.lcm a.value b.value : Checked r.Carrier)
    return document .lcm [("a", a.int), ("b", b.int)] [("lcm", shown l)]
  | .diophantine a b c =>
    reportFamily a.int b.int c.int a.value b.value c.value start? count?
  | .congruence a b m => reportResidues a.int b.int m.int a.value b.value m.value
  | .inverse n m => do
    let x ← (Congruence.inverse n.value m.value : Checked r.Carrier)
    return document .inverse [("n", n.int), ("m", m.int)] [("inverse", shown x)]
  | .power x n m => do
    let y ← (powMod x.value n.value m.value : Checked r.Carrier)
    return document .power [("x", x.int), ("n", n.int), ("m", m.int)] [("result", shown y)]
  | .topBit n =>
    .ok (document .topBit [("n", n.int)]
      [("index", .int (BitScan.topBitIndex n.value)), ("mask", shown (BitScan.topBit n.value))])
  | .audit a b m => do
    let audit ← Audit.run ref r a.int b.int m.int
    return ⟨audit.toDocument, audit.allAgree⟩
  | .scenarios => do
    let results ← (Scenarios.run : Checked (List (String × Bool)))
    return ⟨Scenarios.toDocument results, Scenarios.allHold results⟩

/-- Why an operand without an integer stops a mode. -/
def missingOperand (mode : Mode) : Rep → Fault
  | .unbounded => if mode = .audit then .notConvertible "list" else .notNumeric "list"
  | .fixed _ => .notAnIndex "list"
  | .signMagnitude _ => .noAbs "list"

/-- An operand in the representation `r`. -/
def operand (mode : Mode) (r : Rep) : Option Int → Answer (Operand r.Carrier)
  | some k => do
    let x ← (ofInt k : Checked r.Carrier)
    return ⟨k, x⟩
  | none => .error (missingOperand mode r)

/-- Converts the operands from left to right and computes. The scenarios do without a choice of the
representation. -/
def Invocation.run (ref : References) (i : Invocation) : Answer Report := do
  let r ← match i.settings.rep?, i.task with
    | some r, _ => pure r
    | none, .scenarios => pure Rep.unbounded
    | none, _ => throw (.unhashable "list")
  compute ref r i.start? i.count? (← i.task.mapM (operand i.task.mode r))

/-- Where a log goes. -/
inductive LogTarget where
  | file (name : String)
  /-- The error stream takes the lines of a log without a name. -/
  | errorStream
  deriving DecidableEq, Repr

/-- A log with its lines, each without its time. -/
structure Log where
  target : LogTarget
  lines : List String
  deriving DecidableEq, Repr

/-- What a command line leaves behind. -/
structure Outcome where
  exit : Nat
  stdout : String := ""
  /-- The message on the error stream, if there is one. A log that goes there stands in front of
  it. -/
  stderr? : Option String := none
  /-- The log; there is none when the command line is not understood. -/
  record? : Option Log := none
  /-- The fault that ended the run, when it is no failure of checked arithmetic. -/
  fault? : Option Fault := none
  deriving DecidableEq, Repr

/-- The log file and its lines, if the log goes to a file. -/
def Outcome.log? (o : Outcome) : Option (String × List String) :=
  match o.record? with
  | some ⟨.file name, lines⟩ => some (name, lines)
  | _ => none

/-- The line that tells what is run. -/
def Invocation.announcement (i : Invocation) : String :=
  let type := (i.settings.rep?.map repName).getD "[]"
  s!"mode={i.task.mode.name} type={type}"

/-- The word for a failure in the log. -/
def failureWord (e : Failure) : String :=
  match e.category? with
  | some category => category.tag
  | none => "division by zero"

/-- The line that tells of a failure. -/
def Invocation.complaint (i : Invocation) (e : Failure) : String :=
  s!"{i.task.mode.name} failed ({failureWord e}): {e.message}"

/-- Where the log goes: to the file with the name that is set, and for no name or an empty one to
the error stream. -/
def Invocation.logTarget (i : Invocation) : LogTarget :=
  match i.settings.logFile? with
  | none | some "" => .errorStream
  | some name => .file name

/-- The log with the given lines. -/
def Invocation.log (i : Invocation) (lines : List String) : Log := ⟨i.logTarget, lines⟩

/-- What a run leaves behind that makes the lines `announced` first. -/
def Invocation.finish (ref : References) (i : Invocation) (announced : List String) : Outcome :=
  let written : Answer Report := do
    let report ← i.run ref
    let document ← report.document.writable
    return { report with document }
  match written.mapError Fault.reported with
  | .ok report =>
    { exit := if report.agrees then 0 else 1
      stdout := report.document.render ++ "\n"
      record? := i.log announced }
  | .error (.failure e) =>
    { exit := 1
      stderr? := some ("Error: " ++ e.message)
      record? := i.log (announced ++ [i.complaint e]) }
  | .error e => { exit := 1, record? := i.log announced, fault? := some e }

/-- What an invocation leaves behind. -/
def Invocation.outcome (ref : References) (i : Invocation) : Outcome :=
  match i.settings.verbosity? with
  | none => { exit := 1, fault? := some (.noOrder ">=" "list" "int") }
  | some verbosity => i.finish ref (if verbosity ≥ 1 then [i.announcement] else [])

/-- What a command line leaves behind when audits compare with the references `ref`. -/
def outcomeWith (ref : References) (args : List String) : Outcome :=
  match parse args with
  | .ok i => i.outcome ref
  | .error .help => { exit := 0 }
  | .error .misuse => { exit := 2 }

/-- What a command line leaves behind. -/
def outcome (args : List String) : Outcome := outcomeWith .textbook args

end Aliquot.CommandLine
