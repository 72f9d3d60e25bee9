/-
Inner products as formulas over two sequences of values, one for each
backend. No law of arithmetic is used: which values are rounded together,
and in which order, is what the formulas tell.

The lanes of a vector register never meet before the end, so the loop over
rounds is told lane by lane (`laneSum`): lane `k` of the first register
takes every sixteenth product from the `k`-th on, that of the second one
those eight places later. The last run of eight, which only the first
register takes, is one more such product for each of its lanes.
-/
import FireNet.Kernel.Product

set_option autoImplicit false

namespace FireNet.Kernel

-- ============================================================== formulas

/-- Products added from the left, beginning at a value. -/
def sumFrom (n : Nat) (a b : Nat → Single) (acc : Single) : Single :=
  (List.range n).foldl (fun acc i => acc + a i * b i) acc

/-- The scalar sum: from the left, beginning at negative zero. -/
def scalarProduct (n : Nat) (a b : Nat → Single) : Single :=
  sumFrom n a b Single.negZero

/-- Every sixteenth product from the `k`-th on, `n` of them, each rounded
once together with the sum it is added to. -/
def laneSum (k n : Nat) (a b : Nat → Single) (acc : Single) : Single :=
  (List.range n).foldl
    (fun acc m => Single.fused (a (16 * m + k)) (b (16 * m + k)) acc) acc

/-- What both registers hold in lane `k` in the end. -/
def laneTotal (n : Nat) (a b : Nat → Single) (k : Nat) : Single :=
  laneSum k ((n + 8) / 16) a b Single.zero
    + laneSum (8 + k) (n / 16) a b Single.zero

/-- The vector sum: the lanes by halves, then what the runs of eight left
over. -/
def vectorProduct (n : Nat) (a b : Nat → Single) : Single :=
  let lane := laneTotal n a b
  sumFrom (n % 8) (fun i => a (n / 8 * 8 + i)) (fun i => b (n / 8 * 8 + i))
    (((lane 0 + lane 4) + (lane 2 + lane 6))
      + ((lane 1 + lane 5) + (lane 3 + lane 7)))

/-- The inner product of `n` values and `n` values on a backend. -/
def innerProduct (n : Nat) (a b : Nat → Single) : Backend → Single
  | .scalar => scalarProduct n a b
  | .vector => vectorProduct n a b

-- ================================================================ scalar

/-- The cells of a buffer from `i` on, zero past its end. -/
def cellsFrom (a : Array Single) (i k : Nat) : Single :=
  a.getD (i + k) Single.zero

variable {a b : Array Single} {i j n : Nat}

theorem cellsFrom_add (m : Nat) :
    cellsFrom a (i + m) = fun k => cellsFrom a i (m + k) := by
  funext k
  rw [cellsFrom, cellsFrom, Nat.add_assoc]

/-- The loop over two runs is the sum of their products from the left. -/
theorem dotFrom_eq_sumFrom {acc : Single} :
    dotFrom a b i j n acc = sumFrom n (cellsFrom a i) (cellsFrom b j) acc := by
  induction n generalizing i j acc with
  | zero => rfl
  | succ n ih =>
      rw [dotFrom, ih, cellsFrom_add, cellsFrom_add, sumFrom, sumFrom,
        List.range_succ_eq_map, List.foldl_cons, List.foldl_map]
      simp only [Nat.succ_eq_add_one, Nat.add_comm 1]
      rfl

-- ================================================================= lanes

/-- The first product of a lane apart from the later ones. -/
theorem laneSum_succ (k : Nat) (a b : Nat → Single) (acc : Single) :
    laneSum k (n + 1) a b acc
      = laneSum k n (fun m => a (16 + m)) (fun m => b (16 + m))
          (Single.fused (a k) (b k) acc) := by
  rw [laneSum, laneSum, List.range_succ_eq_map, List.foldl_cons, List.foldl_map]
  simp only [Nat.mul_zero, Nat.zero_add, Nat.succ_eq_add_one, Nat.mul_add,
    Nat.mul_one, Nat.add_comm (16 * _) 16, Nat.add_assoc]

/-- The last product of a lane apart from the earlier ones. -/
theorem laneSum_concat (k : Nat) (a b : Nat → Single) (acc : Single) :
    laneSum k (n + 1) a b acc
      = Single.fused (a (16 * n + k)) (b (16 * n + k))
        (laneSum k n a b acc) := by
  rw [laneSum, List.range_succ, List.foldl_append, List.foldl_cons,
    List.foldl_nil]
  rfl

namespace Register

variable {r s r' s' : Register} {k : Nat}

/-- What happens to one lane of a register. -/
theorem getElem_fuse (hk : k < 8) :
    (r.fuse a b i j)[k]
      = Single.fused (cellsFrom a i k) (cellsFrom b j k) r[k] := by
  simp only [fuse, Vector.getElem_ofFn]
  rfl

/-- A lane of each register after some rounds. -/
theorem lanes_of_rounds (h : rounds a b i j n r s = (r', s')) (hk : k < 8) :
    r'[k] = laneSum k n (cellsFrom a i) (cellsFrom b j) r[k]
      ∧ s'[k] = laneSum (8 + k) n (cellsFrom a i) (cellsFrom b j) s[k] := by
  induction n generalizing i j r s with
  | zero =>
      cases h
      exact ⟨rfl, rfl⟩
  | succ n ih =>
      obtain ⟨hfirst, hsecond⟩ := ih h
      rw [hfirst, hsecond, getElem_fuse hk, getElem_fuse hk, laneSum_succ,
        laneSum_succ,
        cellsFrom_add 16, cellsFrom_add 16, cellsFrom_add 8, cellsFrom_add 8]
      exact ⟨rfl, rfl⟩

/-- A total whose lanes are told. -/
theorem total_zipWith {f g : Nat → Single} (hr : ∀ k (hk : k < 8), r[k] = f k)
    (hs : ∀ k (hk : k < 8), s[k] = g k) :
    total (r.zipWith (· + ·) s)
      = (((f 0 + g 0) + (f 4 + g 4)) + ((f 2 + g 2) + (f 6 + g 6)))
        + (((f 1 + g 1) + (f 5 + g 5)) + ((f 3 + g 3) + (f 7 + g 7))) := by
  simp only [total, Vector.getElem_zipWith, hr, hs]

end Register

-- ================================================================ vector

/-- A last run of eight, if there is one, is one more product for every lane
of the first register. -/
theorem exists_lastRun {r : Register}
    (hr : ∀ k (hk : k < 8),
      r[k] = laneSum k (n / 16) (cellsFrom a i) (cellsFrom b j) Single.zero) :
    ∃ r' : Register,
      (if n / 16 * 16 + 8 ≤ n then
        (r.fuse a b (i + n / 16 * 16) (j + n / 16 * 16), n / 16 * 16 + 8)
      else (r, n / 16 * 16)) = (r', n / 8 * 8)
        ∧ ∀ k (hk : k < 8),
          r'[k] = laneSum k ((n + 8) / 16) (cellsFrom a i)
            (cellsFrom b j) Single.zero := by
  by_cases hlast : n / 16 * 16 + 8 ≤ n
  · have hdone : n / 16 * 16 + 8 = n / 8 * 8 := by omega
    have hcount : (n + 8) / 16 = n / 16 + 1 := by omega
    refine ⟨_, by rw [if_pos hlast, hdone], fun k hk => ?_⟩
    rw [Register.getElem_fuse hk, hr k hk, hcount, laneSum_concat,
      cellsFrom_add, cellsFrom_add, Nat.mul_comm (n / 16)]
  · have hdone : n / 16 * 16 = n / 8 * 8 := by omega
    have hcount : (n + 8) / 16 = n / 16 := by omega
    refine ⟨r, by rw [if_neg hlast, hdone], fun k hk => ?_⟩
    rw [hr k hk, hcount]

/-- The loop over registers computes the vector sum. -/
theorem dotVector_eq_vectorProduct :
    dotVector a b i j n = vectorProduct n (cellsFrom a i) (cellsFrom b j) := by
  rcases hrounds : Register.rounds a b i j (n / 16) (.replicate 8 Single.zero)
    (.replicate 8 Single.zero) with ⟨r, s⟩
  have hr (k : Nat) (hk : k < 8) :
      r[k] = laneSum k (n / 16) (cellsFrom a i)
        (cellsFrom b j) Single.zero := by
    rw [(Register.lanes_of_rounds hrounds hk).1, Vector.getElem_replicate]
  have hs (k : Nat) (hk : k < 8) :
      s[k] = laneSum (8 + k) (n / 16) (cellsFrom a i)
        (cellsFrom b j) Single.zero := by
    rw [(Register.lanes_of_rounds hrounds hk).2, Vector.getElem_replicate]
  obtain ⟨r', hlast, hfirst⟩ := exists_lastRun hr
  have hrest : n - n / 8 * 8 = n % 8 := by omega
  simp only [dotVector, hrounds, hlast]
  rw [Register.total_zipWith hfirst hs, dotFrom_eq_sumFrom, hrest,
    cellsFrom_add, cellsFrom_add]
  rfl

-- ============================================================== dispatch

/-- Either way of computing a product is the sum that its backend stands
for. -/
theorem product_eq_innerProduct (backend : Backend) :
    product a b i j n backend
      = innerProduct n (cellsFrom a i) (cellsFrom b j) backend := by
  cases backend with
  | scalar => exact dotFrom_eq_sumFrom
  | vector => exact dotVector_eq_vectorProduct

/-- Where both runs lie in their buffers, their inner product is there. -/
theorem dotRun?_eq_some (backend : Backend) (ha : i + n ≤ a.size)
    (hb : j + n ≤ b.size) :
    dotRun? backend a i b j n
      = some (innerProduct n (cellsFrom a i) (cellsFrom b j) backend) := by
  rw [dotRun?, if_pos ⟨ha, hb⟩, product_eq_innerProduct]

end FireNet.Kernel
