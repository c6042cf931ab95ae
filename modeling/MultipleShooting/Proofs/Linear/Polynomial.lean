/-
**Polynomials of a vector.**

A polynomial in the components of a vector of real numbers:

* `hasGradient_eval_iff`: its gradient consists of its formal partial derivatives, which commute
  (`pderiv_comm`) and lower the degree (`totalDegree_pderiv_le`);
* `alongLine`: along a line it is a polynomial of the time, of no higher degree
  (`natDegree_alongLine_le`), that changes at the rate of its partial derivatives
  (`derivative_alongLine`);
* `eval_of_totalDegree_le_one`: **a polynomial of degree one is affine**, with its partial
  derivatives as the coefficients.
-/
import MultipleShooting.Proofs.Linear.Gradient

namespace MultipleShooting

open MvPolynomial

variable {n : Nat}

/-! ### Partial derivatives -/

/-- The total derivative of a polynomial. -/
theorem hasFDerivAt_eval (p : MvPolynomial (Fin n) ℝ) (point : Fin n → ℝ) :
    HasFDerivAt (fun coordinates => eval coordinates p)
      (∑ i, eval point (pderiv i p) • (ContinuousLinearMap.proj i : (Fin n → ℝ) →L[ℝ] ℝ))
      point := by
  induction p using MvPolynomial.induction_on with
  | C value => simpa using hasFDerivAt_const value point
  | add p q hp hq =>
    simp only [map_add, add_smul, Finset.sum_add_distrib]
    exact hp.add hq
  | mul_X p j hp =>
    have unit (i : Fin n) : eval point (pderiv i (X j)) = if i = j then 1 else 0 := by
      rw [pderiv_X, Pi.single_apply, apply_ite (eval point), map_one, map_zero]
      exact if_congr eq_comm rfl rfl
    simp only [map_mul, eval_X, pderiv_mul, map_add, unit, mul_ite, mul_one, mul_zero]
    refine (hp.mul (hasFDerivAt_apply j point)).congr_fderiv ?_
    simp only [add_smul, Finset.sum_add_distrib, ite_smul, zero_smul, Finset.sum_ite_eq',
      Finset.mem_univ, if_true, Finset.smul_sum, smul_smul, mul_comm]
    exact add_comm _ _

/-- **The gradient of a polynomial** consists of its partial derivatives. -/
theorem hasGradient_eval (p : MvPolynomial (Fin n) ℝ) (point : Vector ℝ n) :
    HasGradient (fun vector => eval vector.get p)
      (Vector.ofFn fun i => eval point.get (pderiv i p)) point := by
  unfold HasGradient
  simp only [get_ofFn_eq, Vector.get_ofFn]
  exact hasFDerivAt_eval p point.get

/-- A vector is the gradient of a polynomial when its entries are the partial derivatives. -/
theorem hasGradient_eval_iff {p : MvPolynomial (Fin n) ℝ} {gradient point : Vector ℝ n} :
    HasGradient (fun vector => eval vector.get p) gradient point ↔
      ∀ i, gradient.get i = eval point.get (pderiv i p) := by
  constructor
  · intro derives i
    rw [derives.unique (hasGradient_eval p point), Vector.get_ofFn]
  · intro entries
    have same : gradient = Vector.ofFn fun i => eval point.get (pderiv i p) :=
      ext_get fun i => by rw [entries, Vector.get_ofFn]
    rw [same]
    exact hasGradient_eval p point

/-- A partial derivative lowers the degree. -/
theorem totalDegree_pderiv_le (p : MvPolynomial (Fin n) ℝ) (i : Fin n) :
    (pderiv i p).totalDegree ≤ p.totalDegree - 1 := by
  refine Finset.sup_le ?_
  intro exponents among
  rw [mem_support_iff, coeff_pderiv] at among
  have raised := le_totalDegree (mem_support_iff.mpr (left_ne_zero_of_mul among))
  rw [Finsupp.sum_add_index' (fun _ => rfl) (fun _ _ _ => rfl), Finsupp.sum_single_index rfl]
    at raised
  omega

/-- Partial derivatives commute, as they do on the variables. -/
theorem pderiv_comm (p : MvPolynomial (Fin n) ℝ) (i j : Fin n) :
    pderiv i (pderiv j p) = pderiv j (pderiv i p) := by
  let along (k : Fin n) : Derivation ℝ (MvPolynomial (Fin n) ℝ) (MvPolynomial (Fin n) ℝ) :=
    pderiv k
  have vanishes : ⁅along i, along j⁆ = 0 := by
    refine derivation_ext ?_
    intro k
    rw [Derivation.commutator_apply]
    simp [along, pderiv_X, Pi.single_apply, apply_ite]
  exact sub_eq_zero.mp (congrArg (· p) vanishes)

/-- A polynomial of degree zero has the same value everywhere. -/
theorem eval_of_totalDegree_eq_zero {p : MvPolynomial (Fin n) ℝ} (constant : p.totalDegree = 0)
    (point other : Fin n → ℝ) : eval point p = eval other p := by
  rw [totalDegree_eq_zero_iff_eq_C.mp constant, eval_C, eval_C]

/-! ### Along a line -/

/-- A polynomial along a line, as a polynomial of the time. -/
noncomputable def alongLine (p : MvPolynomial (Fin n) ℝ) (start velocity : Fin n → ℝ) :
    Polynomial ℝ :=
  aeval (fun i => Polynomial.C (velocity i) * Polynomial.X + Polynomial.C (start i)) p

theorem eval_alongLine (p : MvPolynomial (Fin n) ℝ) (start velocity : Fin n → ℝ) (time : ℝ) :
    (alongLine p start velocity).eval time = eval (start + time • velocity) p := by
  unfold alongLine
  rw [← Polynomial.coe_evalRingHom, map_aeval]
  refine eval₂Hom_congr ?_ ?_ rfl
  · exact RingHom.ext fun value => Polynomial.eval_C
  · funext i
    rw [map_add, map_mul, Polynomial.coe_evalRingHom, Polynomial.eval_C, Polynomial.eval_C,
      Polynomial.eval_X]
    show velocity i * time + start i = start i + time * velocity i
    ring

theorem natDegree_alongLine_le (p : MvPolynomial (Fin n) ℝ) (start velocity : Fin n → ℝ) :
    (alongLine p start velocity).natDegree ≤ p.totalDegree := by
  refine (aeval_natDegree_le p le_rfl _ (n := 1) ?_).trans (mul_one _).le
  exact fun i => Polynomial.natDegree_linear_le

/-- **Along a line** a polynomial changes at the rate of its partial derivatives. -/
theorem derivative_alongLine (p : MvPolynomial (Fin n) ℝ) (start velocity : Fin n → ℝ)
    (time : ℝ) :
    (alongLine p start velocity).derivative.eval time =
      ∑ i, eval (start + time • velocity) (pderiv i p) * velocity i := by
  have line : HasDerivAt (fun time : ℝ => start + time • velocity) velocity time := by
    simpa using ((hasDerivAt_id time).smul_const velocity).const_add start
  have chained := (hasFDerivAt_eval p (start + time • velocity)).comp_hasDerivAt time line
  have whole := (alongLine p start velocity).hasDerivAt time
  simp only [eval_alongLine] at whole
  refine (whole.unique chained).trans ?_
  simp

/-- **A polynomial of degree one is affine**: on the line from zero to a point it has a constant
rate. -/
theorem eval_of_totalDegree_le_one {p : MvPolynomial (Fin n) ℝ} (small : p.totalDegree ≤ 1)
    (point : Fin n → ℝ) :
    eval point p = ∑ i, eval 0 (pderiv i p) * point i + eval 0 p := by
  have rate := derivative_alongLine p 0 point 0
  have last := eval_alongLine p 0 point 1
  have first := eval_alongLine p 0 point 0
  rw [Polynomial.eq_X_add_C_of_natDegree_le_one
    ((natDegree_alongLine_le p 0 point).trans small)] at rate last first
  simp only [Polynomial.derivative_add, Polynomial.derivative_mul, Polynomial.derivative_C,
    Polynomial.derivative_X, Polynomial.eval_add, Polynomial.eval_mul, Polynomial.eval_C,
    Polynomial.eval_X, zero_smul, one_smul, zero_add, add_zero, zero_mul, mul_zero, mul_one]
    at rate last first
  rw [← last, ← rate, ← first]

end MultipleShooting
