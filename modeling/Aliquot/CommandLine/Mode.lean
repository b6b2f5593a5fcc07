import Aliquot.Representation

/-!
# Modes and settings

A mode is one of the computations that the command line offers. Settings stand before the mode and
choose the representation and the log.

Source: the modes of `build_parser`, `NUMERIC_TYPES` and `DEFAULT_LOG_FILE` in `bezout.cli`.
-/

namespace Aliquot.CommandLine

/-- The computations on offer. -/
inductive Mode where
  | xgcd | gcd | lcm | diophantine | congruence | inverse | power | topBit | audit | scenarios
  deriving DecidableEq, Repr

namespace Mode

/-- The word that stands for a mode. -/
def name : Mode → String
  | xgcd => "egcd"
  | gcd => "gcd"
  | lcm => "lcm"
  | diophantine => "dioph"
  | congruence => "congruence"
  | inverse => "inverse"
  | power => "power"
  | topBit => "bitscan"
  | audit => "crosscheck"
  | scenarios => "selftest"

/-- Every mode. -/
def all : List Mode :=
  [xgcd, gcd, lcm, diophantine, congruence, inverse, power, topBit, audit, scenarios]

/-- The mode that a word stands for. -/
def ofName? (s : String) : Option Mode := all.find? (·.name = s)

/-- The options of a mode that take a value. -/
def options : Mode → List String
  | diophantine => ["--count", "--start"]
  | _ => []

/-- A mode is found by its own word. -/
theorem ofName?_name (m : Mode) : ofName? m.name = some m := by
  cases m <;> decide

end Mode

/-- The word that stands for a representation. -/
def repName : Rep → String
  | .unbounded => "int"
  | .fixed .word => "fixed"
  | .fixed (.signed w) => s!"i{w.bits}"
  | .fixed (.unsigned w) => s!"u{w.bits}"
  | .signMagnitude w => s!"sm{w.bits}"

/-- The representations on offer: unbounded integers, two's complement and signed magnitudes. -/
def representations : List Rep :=
  let widths : List Width := [.w8, .w16, .w32, .w64, .w128]
  .unbounded :: widths.map (fun w ↦ .fixed (.signed w)) ++ widths.map .signMagnitude

/-- The representation on offer that a word stands for. -/
def representation? (s : String) : Option Rep := representations.find? (repName · = s)

/-- What is chosen before the mode. A choice may be left without a value. -/
structure Settings where
  rep? : Option Rep := some .unbounded
  logFile? : Option String := some "bezout_errors.log"
  verbosity? : Option Int := some 0
  deriving DecidableEq, Repr

/-- The options that stand before the mode. -/
def globalOptions : List String := ["--type", "--log_file", "--verbose"]

end Aliquot.CommandLine
