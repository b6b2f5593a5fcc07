import Aliquot.Decimal.Reading
import Aliquot.Main
import Aliquot.Proofs.Alignment
import Aliquot.Proofs.BitPattern
import Aliquot.Proofs.BitScan.Numbers
import Aliquot.Proofs.CommandLine.Outcome
import Aliquot.Proofs.Congruence.Inverse
import Aliquot.Proofs.Diophantine.Bound
import Aliquot.Proofs.Power.Overflow
import Aliquot.Proofs.SignMagnitude
import Aliquot.Proofs.Simulation.Calls
import Aliquot.Proofs.Euclid.Outcomes
import Aliquot.Proofs.Euclid.Rotation
import Aliquot.Proofs.Comparison
import Aliquot.Proofs.Comparison.Coherence
import Aliquot.Proofs.Conversion
import Aliquot.Proofs.Quotient
import Aliquot.Proofs.Dispatch.Mixed
import Aliquot.Proofs.SignMagnitude.Malformed
