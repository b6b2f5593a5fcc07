import Aliquot.Proofs.Euclid.Coefficients
import Mathlib.Data.Fin.VecNotation

/-!
# Three rows in rotation

The rows of the extended algorithm fit into three slots. A step reads the slot in turn and the one
after it, writes the third one, and passes the turn on. Whatever the number of steps, every slot
combines the given numbers, the two live rows have their common divisors and a determinant of one or
minus one, and in the end the row after the divisor holds the given numbers divided by it.

Source: the slots of `_RotatingTriples` in `bezout.euclidean`.
-/

namespace Aliquot.Euclid

open CheckedInt

/-- The state after `n` steps, unless one of them fails. -/
def steps {σ : Type} (step : σ → Checked σ) : Nat → σ → Checked σ
  | 0, s => .ok s
  | n + 1, s => steps step n s >>= step

/-- What the first state has and each step hands on, the state after any number of steps has. -/
theorem steps_induction {σ : Type} {step : σ → Checked σ} {P : Nat → σ → Prop} {s : σ}
    (h₀ : P 0 s) (hstep : ∀ n t u, P n t → step t = .ok u → P (n + 1) u) {n : Nat} {t : σ}
    (h : steps step n s = .ok t) : P n t := by
  induction n generalizing t with
  | zero =>
    cases h
    exact h₀
  | succ n ih =>
    obtain ⟨u, hu, h⟩ := exists_of_bind_eq_ok h
    exact hstep n u t (ih hu) h

/-- What one step does through a view of the states, any number of steps does. -/
theorem map_steps {σ τ : Type} {step : σ → Checked σ} {step' : τ → Checked τ} {f : σ → τ}
    (h : ∀ s, f <$> step s = step' (f s)) (n : Nat) (s : σ) :
    f <$> steps step n s = steps step' n (f s) := by
  induction n with
  | zero => rfl
  | succ n ih =>
    rw [steps, steps, ← ih]
    cases steps step n s with
    | error e => rfl
    | ok t => exact h t

/-- The rows in three slots, and the one of them that holds the current row. -/
structure Slots (α : Type) where
  rows : Fin 3 → Row α
  current : Fin 3

namespace Slots

variable {α : Type}

/-- The row that is `k` slots after the current one. -/
def row (c : Slots α) (k : Fin 3) : Row α := c.rows (c.current + k)

/-- The rows as the algorithm sees them. The slot after the next row holds the one before. -/
def state (c : Slots α) : State α where
  previous := c.row 2
  current := c.row 0
  next := c.row 1

/-- The row `row` is written behind the next row, which becomes the current one. -/
def rotate (c : Slots α) (row : Row α) : Slots α where
  rows := Function.update c.rows (c.current + 2) row
  current := c.current + 1

/-- Writing behind the next row loses the row before, and no other one. -/
theorem state_rotate (c : Slots α) (row : Row α) :
    (c.rotate row).state = ⟨c.row 0, c.row 1, row⟩ := by
  obtain ⟨rows, current⟩ := c
  have hprevious : current + 1 + 2 = current + 0 := by omega
  have hcurrent : current + 1 + 0 = current + 1 := by omega
  have hnext : current + 1 + 1 = current + 2 := by omega
  have h₀ : current + 0 ≠ current + 2 := by omega
  have h₁ : current + 1 ≠ current + 2 := by omega
  simp only [state, rotate, Slots.row, hprevious, hcurrent, hnext, Function.update_self,
    Function.update_of_ne h₀, Function.update_of_ne h₁]

variable [CheckedInt α]

/-- The slots before the first step. -/
def start (a b : α) : Slots α where
  rows := ![⟨a, one, zero⟩, ⟨b, zero, one⟩, ⟨zero, zero, zero⟩]
  current := 0

/-- One division step, which writes one slot. -/
def step (c : Slots α) : Checked (Slots α) := do
  let q ← quo (c.row 0).value (c.row 1).value
  return c.rotate (← (c.row 0).subMul q (c.row 1))

/-- The slots hold the rows of the first state. -/
theorem state_start (a b : α) : (start a b).state = State.start a b := rfl

/-- A step on the slots is one on the rows that they hold. -/
theorem state_step (c : Slots α) : state <$> c.step = c.state.step := by
  unfold step State.step
  change state <$> (quo (c.row 0).value (c.row 1).value >>= _) =
    quo (c.row 0).value (c.row 1).value >>= _
  cases quo (c.row 0).value (c.row 1).value with
  | error e => rfl
  | ok q =>
    change state <$> ((c.row 0).subMul q (c.row 1) >>= _) = (c.row 0).subMul q (c.row 1) >>= _
    cases (c.row 0).subMul q (c.row 1) with
    | error e => rfl
    | ok row => exact congrArg Except.ok (c.state_rotate row)

/-- A step writes one row and passes the turn on. -/
theorem exists_eq_rotate_of_step_eq_ok {c d : Slots α} (h : c.step = .ok d) :
    ∃ row, d = c.rotate row := by
  obtain ⟨q, -, h⟩ := exists_of_bind_eq_ok h
  obtain ⟨row, -, h⟩ := exists_of_bind_eq_ok h
  exact ⟨row, (Except.ok.inj h).symm⟩

/-- After so many steps the current row is in the slot with that number, counted round. -/
theorem current_of_steps_eq_ok {c d : Slots α} {n : Nat} (h : steps step n c = .ok d) :
    d.current.val = (c.current.val + n) % 3 := by
  refine steps_induction (P := fun n d ↦ d.current.val = (c.current.val + n) % 3)
    (by omega) (fun n t u ht hu ↦ ?_) h
  obtain ⟨row, rfl⟩ := exists_eq_rotate_of_step_eq_ok hu
  have hturn : (t.rotate row).current = t.current + 1 := rfl
  omega

/-- The slots hold the rows after any number of steps, the current one in its turn. -/
theorem exists_slots {a b : α} {n : Nat} {t : State α}
    (h : steps State.step n (State.start a b) = .ok t) :
    ∃ c, steps step n (start a b) = .ok c ∧ c.current.val = n % 3 ∧ c.state = t := by
  rw [← state_start, ← map_steps state_step] at h
  obtain ⟨c, hc, hstate⟩ := exists_of_map_eq_ok h
  refine ⟨c, hc, ?_, hstate⟩
  rw [current_of_steps_eq_ok hc]
  change (0 + n) % 3 = n % 3
  rw [Nat.zero_add]

end Slots

namespace State

variable {a b : Int} {s t u : State Int} {n : Nat}

/-- A step takes place just where the next value is not zero. -/
theorem step_eq_ok_iff : s.step = .ok u ↔ s.next.value ≠ 0 ∧ s.advance = u := by
  constructor
  · intro h
    have hz : s.next.value ≠ 0 := by
      intro hz
      have hq : quo s.current.value s.next.value = .error .divisionByZero :=
        (quo_eq ..).trans (if_pos hz)
      rw [step, hq] at h
      cases h
    rw [step_int hz] at h
    exact ⟨hz, Except.ok.inj h⟩
  · rintro ⟨hz, rfl⟩
    exact step_int hz

/-- Steps that do not fail are made before the run is over. -/
theorem reaches_of_steps (h : steps step n s = .ok t) : Reaches s n t := by
  refine steps_induction .refl (fun n t u ht hu ↦ ?_) h
  obtain ⟨hz, rfl⟩ := step_eq_ok_iff.mp hu
  exact ht.step hz

/-- The row before the live ones combines the given numbers, too. -/
theorem Reaches.previous_combines (h : Reaches (start a b) n t) : t.previous.Combines a b := by
  cases h with
  | refl => simp [Row.Combines, start, zero]
  | step h _ => exact h.invariant.current

/-- The divisor is zero only if both numbers are. -/
theorem Reaches.value_eq_zero_iff (h : Reaches (start a b) n t) (hz : t.next.value = 0) :
    t.current.value = 0 ↔ a = 0 ∧ b = 0 := by
  rw [← Int.gcd_eq_zero_iff, ← h.invariant.gcd_eq, hz, Int.gcd_zero_right, Int.natAbs_eq_zero]

/-- After a step the current value is not zero. -/
theorem Reaches.value_ne_zero (h : Reaches s n t) (hn : n ≠ 0) : t.current.value ≠ 0 := by
  cases h with
  | refl => exact absurd rfl hn
  | step _ hz => exact hz

/-- The live values have the common divisors of the given numbers. -/
theorem Invariant.dvd_iff (h : Invariant a b t) (d : Int) :
    d ∣ t.current.value ∧ d ∣ t.next.value ↔ d ∣ a ∧ d ∣ b := by
  rw [← Int.dvd_coe_gcd_iff, ← Int.dvd_coe_gcd_iff, h.gcd_eq]

/-- The state in which a run ends after `n` steps: the current row is the result, and the next one
holds the given numbers divided by the divisor, with opposite signs. -/
structure Ended (a b : Int) (n : Nat) (t : State Int) : Prop where
  xgcd_eq : xgcd a b = .ok t.current
  value_eq_zero_iff : t.current.value = 0 ↔ a = 0 ∧ b = 0
  value_ne_zero : n ≠ 0 → t.current.value ≠ 0
  dvd : t.current.value ∣ a ∧ t.current.value ∣ b
  coeff₁ : t.current.value ≠ 0 → t.next.coeff₁ = -(-1) ^ n * (b / t.current.value)
  coeff₂ : t.current.value ≠ 0 → t.next.coeff₂ = (-1) ^ n * (a / t.current.value)

/-- A factor is found by a division. -/
private theorem eq_mul_ediv {c g m ε : Int} (hg : g ≠ 0) (hdvd : g ∣ m) (h : c * g = ε * m) :
    c = ε * (m / g) := by
  rw [← Int.mul_ediv_assoc _ hdvd, ← h, Int.mul_ediv_cancel _ hg]

/-- A run that is over is in such a state. -/
theorem Reaches.ended (h : Reaches (start a b) n t) (hz : t.next.value = 0) : Ended a b n t := by
  have hdvd : t.current.value ∣ a ∧ t.current.value ∣ b :=
    (h.invariant.dvd_iff _).mp ⟨dvd_refl _, hz ▸ dvd_zero _⟩
  have hcross₁ := h.cross₁
  have hcross₂ := h.cross₂
  rw [hz, mul_zero, zero_sub] at hcross₁ hcross₂
  exact {
    xgcd_eq := by
      rw [xgcd, h.run_eq, run_of_isFinished (isFinished_iff.mpr hz)]
      rfl
    value_eq_zero_iff := h.value_eq_zero_iff hz
    value_ne_zero := h.value_ne_zero
    dvd := hdvd
    coeff₁ := fun hg ↦ eq_mul_ediv hg hdvd.2 (by linarith)
    coeff₂ := fun hg ↦ eq_mul_ediv hg hdvd.1 (by linarith) }

/-- What is true of the rows after `n` steps from `a` and `b`. -/
structure Rotated (a b : Int) (n : Nat) (t : State Int) : Prop where
  previous : t.previous.Combines a b
  current : t.current.Combines a b
  next : t.next.Combines a b
  determinant :
    t.current.coeff₁ * t.next.coeff₂ - t.current.coeff₂ * t.next.coeff₁ = (-1) ^ n
  dvd_iff : ∀ d, d ∣ t.current.value ∧ d ∣ t.next.value ↔ d ∣ a ∧ d ∣ b
  step_iff : (∃ u, t.step = .ok u) ↔ t.isFinished = false
  shrinks : ∀ u, t.step = .ok u → u.next.value.natAbs < t.next.value.natAbs
  ended : t.isFinished = true → Ended a b n t

/-- Every state of a run has these properties. -/
theorem Reaches.rotated (h : Reaches (start a b) n t) : Rotated a b n t where
  previous := h.previous_combines
  current := h.invariant.current
  next := h.invariant.next
  determinant := h.determinant
  dvd_iff := h.invariant.dvd_iff
  step_iff := by
    simp only [step_eq_ok_iff, exists_and_left, exists_eq', and_true, ne_eq, ← isFinished_iff,
      Bool.not_eq_true]
  shrinks u hu := by
    have hz : ¬t.isFinished = true := mt isFinished_iff.mp (step_eq_ok_iff.mp hu).1
    exact natAbs_next_lt_of_step_eq_ok hz hu
  ended hend := h.ended (isFinished_iff.mp hend)

/-- Any number of steps that are made before the run is over leads to rows with these properties,
and three slots in rotation hold them. -/
theorem rotated_of_steps (h : steps State.step n (start a b) = .ok t) :
    Rotated a b n t ∧
      ∃ c, steps Slots.step n (Slots.start a b) = .ok c ∧ c.current.val = n % 3 ∧ c.state = t :=
  ⟨(reaches_of_steps h).rotated, Slots.exists_slots h⟩

/-- From -97 and 18 five steps are made. The last slot has the turn then, and the row after it holds
the two numbers. -/
theorem rotated_of_five_steps :
    let t : State Int := ⟨⟨-3, 3, 16⟩, ⟨1, 5, 27⟩, ⟨0, 18, 97⟩⟩
    steps State.step 5 (start (-97) 18) = .ok t ∧ Rotated (-97) 18 5 t ∧
      ∃ c, steps Slots.step 5 (Slots.start (-97) 18) = .ok c ∧ c.current.val = 2 ∧ c.state = t := by
  intro t
  have h : steps State.step 5 (start (-97) 18) = .ok t := rfl
  exact ⟨h, rotated_of_steps h⟩

end State

end Aliquot.Euclid
