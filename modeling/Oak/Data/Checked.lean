import Mathlib.Data.Nat.Bitwise
import Oak.Data.Outcome

namespace Oak.Data.Checked

/-! Arithmetic of unsigned machine integers and indexing of slices, where a result that does not fit
and an index that does not exist are panics.  A build without overflow checks does the same as long
as nothing here panics. -/

variable {ε α : Type}

def add (width first second : Nat) : Outcome ε Nat :=
  if first + second < 2 ^ width then .ok (first + second) else .panic "attempt to add with overflow"

def sub (first second : Nat) : Outcome ε Nat :=
  if second ≤ first then .ok (first - second) else .panic "attempt to subtract with overflow"

def complement (width value : Nat) : Nat := 2 ^ width - (value + 1)

def index (items : List α) (position : Nat) : Outcome ε α :=
  match items[position]? with
  | some item => .ok item
  | none => .panic s!"index out of bounds: the len is {items.length} but the index is {position}"

def assign (items : List α) (position : Nat) (item : α) : Outcome ε (List α) :=
  if position < items.length then .ok (items.set position item)
  else .panic s!"index out of bounds: the len is {items.length} but the index is {position}"

/-- `Vec::resize`. -/
def resize (items : List α) (length : Nat) (item : α) : List α :=
  items.take length ++ List.replicate (length - items.length) item

theorem add_of_lt {width first second : Nat} (fits : first + second < 2 ^ width) :
    (add width first second : Outcome ε Nat) = .ok (first + second) := if_pos fits

theorem sub_of_le {first second : Nat} (below : second ≤ first) :
    (sub first second : Outcome ε Nat) = .ok (first - second) := if_pos below

variable {items : List α}

theorem index_of_eq {position : Nat} {item : α} (found : items[position]? = some item) :
    (index items position : Outcome ε α) = .ok item := by
  rw [index, found]

theorem assign_of_lt {position : Nat} (inside : position < items.length) (item : α) :
    (assign items position item : Outcome ε (List α)) = .ok (items.set position item) :=
  if_pos inside

theorem resize_of_le {length : Nat} (longer : items.length ≤ length) (item : α) :
    resize items length item = items ++ List.replicate (length - items.length) item := by
  rw [resize, List.take_of_length_le longer]

theorem land_complement {width bits value : Nat} (small : value < 2 ^ width) (within : bits ≤ width) :
    value &&& complement width (2 ^ bits - 1) = value / 2 ^ bits * 2 ^ bits := by
  have mask : 2 ^ bits - 1 < 2 ^ width :=
    (Nat.sub_lt (Nat.two_pow_pos bits) Nat.one_pos).trans_le (Nat.pow_le_pow_right Nat.two_pos within)
  apply Nat.eq_of_testBit_eq
  intro place
  rw [Nat.testBit_land, complement, Nat.testBit_two_pow_sub_succ mask, Nat.mul_comm,
    Nat.testBit_two_pow_mul, Nat.testBit_div_two_pow]
  by_cases low : place < bits
  · simp [low]
  · rw [Nat.sub_add_cancel (Nat.le_of_not_lt low)]
    by_cases high : place < width
    · simp [high, Nat.le_of_not_lt low]
    · have clear : value.testBit place = false :=
        Nat.testBit_lt_two_pow (small.trans_le
          (Nat.pow_le_pow_right Nat.two_pos (Nat.le_of_not_lt high)))
      simp [clear]

end Oak.Data.Checked
