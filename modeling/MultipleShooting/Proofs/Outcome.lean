/-
**Operations that succeed and operations that fail.**

When a sequence of operations that may fail has an answer, each of them has had one: for a bind and
a map (`bind_eq_ok`, `map_eq_ok`), for the expected length of a list (`expectVector_eq_ok`) and for
the answers of an operation on all numbers below a bound (`collect_eq_ok`). When it has none, there
is a first operation that has failed (`bind_eq_error`, `map_eq_error`, `collect_eq_error`).
-/
import MultipleShooting.Proofs.Linear.Entries
import MultipleShooting.Failure

namespace MultipleShooting

variable {ε α β γ : Type}

theorem bind_eq_ok {outcome : Except ε β} {next : β → Except ε γ} {answer : γ} :
    (outcome >>= next) = .ok answer ↔ ∃ value, outcome = .ok value ∧ next value = .ok answer := by
  cases outcome with
  | error failure => simp [bind, Except.bind]
  | ok value => simp [bind, Except.bind]

theorem map_eq_ok {outcome : Except ε β} {f : β → γ} {answer : γ} :
    outcome.map f = .ok answer ↔ ∃ value, outcome = .ok value ∧ f value = answer := by
  cases outcome with
  | error failure => simp [Except.map]
  | ok value => simp [Except.map]

theorem bind_eq_error {outcome : Except ε β} {next : β → Except ε γ} {failure : ε} :
    (outcome >>= next) = .error failure ↔
      outcome = .error failure ∨ ∃ value, outcome = .ok value ∧ next value = .error failure := by
  cases outcome with
  | error other => simp [bind, Except.bind]
  | ok value => simp [bind, Except.bind]

theorem map_eq_error {outcome : Except ε β} {f : β → γ} {failure : ε} :
    outcome.map f = .error failure ↔ outcome = .error failure := by
  cases outcome <;> simp [Except.map]

theorem mapError_eq_error {outcome : Outcome α β} {f : Failure α → Failure α}
    {failure : Failure α} :
    outcome.mapError f = .error failure ↔ ∃ cause, outcome = .error cause ∧ f cause = failure := by
  cases outcome <;> simp [Except.mapError]

theorem mapError_eq_ok {outcome : Outcome α β} {f : Failure α → Failure α} {answer : β} :
    outcome.mapError f = .ok answer ↔ outcome = .ok answer := by
  cases outcome <;> simp [Except.mapError]

/-- A list is taken as a vector exactly when it is the list of that vector. -/
theorem expectVector_eq_ok {what : String} {n : Nat} {values : List β} {vector : Vector β n} :
    (expectVector what n values : Outcome α (Vector β n)) = .ok vector ↔
      vector.toList = values := by
  unfold expectVector
  split_ifs with same
  · rw [Except.ok.injEq]
    constructor
    · rintro rfl
      rfl
    · rintro rfl
      rfl
  · refine iff_of_false (fun equal => by cases equal) fun equal => same ?_
    rw [← equal, Vector.length_toList]

theorem checkLength_eq_ok {what : String} {expected found : Nat} :
    (checkLength what expected found : Outcome α Unit) = .ok () ↔ expected = found := by
  unfold checkLength
  split_ifs with same <;> simp [same]

/-- **An operation succeeds on all numbers below a bound** exactly when each of its answers is the
one collected. -/
theorem collect_eq_ok {n : Nat} {operation : (index : Nat) → index < n → Outcome α β}
    {answers : Vector β n} :
    collect n operation = .ok answers ↔
      ∀ i : Fin n, operation i i.isLt = .ok (answers.get i) := by
  induction n with
  | zero =>
    unfold collect
    rw [Except.ok.injEq]
    exact ⟨fun _ i => i.elim0, fun _ => ext_get fun i => i.elim0⟩
  | succ n ih =>
    unfold collect
    constructor
    · intro collected i
      split at collected
      · cases collected
      · next before earlier =>
        split at collected
        · cases collected
        · next answer last =>
          cases collected
          refine Fin.lastCases ?_ ?_ i
          · rw [Vector.get_push_last]
            exact last
          · intro j
            rw [Vector.get_push_castSucc]
            exact ih.mp earlier j
    · intro each
      have earlier : collect n (fun index below => operation index (Nat.lt_succ_of_lt below)) =
          .ok (Vector.ofFn fun i => answers.get (Fin.castSucc i)) := by
        refine ih.mpr ?_
        intro i
        rw [Vector.get_ofFn]
        exact each (Fin.castSucc i)
      have last := each (Fin.last n)
      simp only [Fin.val_last] at last
      rw [earlier]
      simp only [last]
      congr 1
      refine ext_get fun i => Fin.lastCases ?_ ?_ i
      · rw [Vector.get_push_last]
      · intro j
        rw [Vector.get_push_castSucc, Vector.get_ofFn]

/-- An operation that fails on a number below a bound fails first on one of them, having succeeded
on all before it. -/
theorem exists_first_of_collect {n : Nat} {operation : (index : Nat) → index < n → Outcome α β}
    {failure : Failure α} (failed : collect n operation = .error failure) :
    ∃ i : Fin n, operation i i.isLt = .error failure ∧
      ∀ j < i, ∃ answer, operation j j.isLt = .ok answer := by
  induction n with
  | zero => cases failed
  | succ n ih =>
    unfold collect at failed
    split at failed
    · next other earlier =>
      cases failed
      obtain ⟨i, here, before⟩ := ih earlier
      exact ⟨i.castSucc, here, fun j below => before (j.castLT (Nat.lt_trans below i.isLt)) below⟩
    · next answers earlier =>
      split at failed
      · next other last =>
        cases failed
        exact ⟨Fin.last n, last, fun j below => ⟨_, collect_eq_ok.mp earlier (j.castLT below)⟩⟩
      · cases failed

/-- **An operation fails on the numbers below a bound** with the failure on the first of them where
it fails. -/
theorem collect_eq_error {n : Nat} {operation : (index : Nat) → index < n → Outcome α β}
    {failure : Failure α} :
    collect n operation = .error failure ↔ ∃ i : Fin n, operation i i.isLt = .error failure ∧
      ∀ j < i, ∃ answer, operation j j.isLt = .ok answer := by
  refine ⟨exists_first_of_collect, ?_⟩
  rintro ⟨i, here, before⟩
  cases collected : collect n operation with
  | ok answers =>
    have succeeded := collect_eq_ok.mp collected i
    rw [here] at succeeded
    cases succeeded
  | error other =>
    obtain ⟨k, there, beforeOther⟩ := exists_first_of_collect collected
    rcases lt_trichotomy i k with below | rfl | above
    · obtain ⟨_, succeeded⟩ := beforeOther i below
      rw [here] at succeeded
      cases succeeded
    · rw [Except.error.inj (there.symm.trans here)]
    · obtain ⟨_, succeeded⟩ := before k above
      rw [there] at succeeded
      cases succeeded

end MultipleShooting
