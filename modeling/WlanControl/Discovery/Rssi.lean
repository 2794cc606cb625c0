namespace WlanControl.Discovery

/-!
# Signal strength

The strength of the last few signals of an access point, in a circular buffer of eight cells.

* `RssiHistory` — the buffer, with `push`, `latest?` and `average?`;
* `RssiHistory.samples` — what it holds, latest first.

Main statement: `RssiHistory.samples_push`, the buffer holds the last eight samples.
-/

/-- The last eight samples at most.  New ones go to the cell `next`, and `count` cells are in
use. -/
structure RssiHistory where
  cells : Vector UInt8 8
  next : Fin 8
  count : Nat
deriving DecidableEq, Repr

namespace RssiHistory

/-- A history without samples. -/
def empty : RssiHistory := ⟨Vector.replicate 8 0, 0, 0⟩

instance : Inhabited RssiHistory := ⟨empty⟩

/-- Takes in one more sample in place of the oldest one. -/
def push (rssi : UInt8) (h : RssiHistory) : RssiHistory where
  cells := h.cells.set h.next rssi
  next := h.next + 1
  count := min (h.count + 1) 8

/-- The last sample. -/
def latest? (h : RssiHistory) : Option UInt8 :=
  if h.count = 0 then none else some h.cells[h.next - 1]

/-- The mean of the samples, rounded down. -/
def average? (h : RssiHistory) : Option UInt8 :=
  if h.count = 0 then none
  else
    let total := (h.cells.toList.take h.count).foldl (fun total rssi => total + rssi.toNat) 0
    some (UInt8.ofNat (total / h.count))

/-- The samples held, latest first. -/
def samples (h : RssiHistory) : List UInt8 :=
  (List.range h.count).map fun back => h.cells[h.next - 1 - Fin.ofNat 8 back]

@[simp] theorem samples_empty : empty.samples = [] := rfl

/-- Going back from the cell that was just filled leads to the cells that were filled before. -/
private theorem cell_behind (next : Fin 8) (back : Nat) :
    next + 1 - 1 - Fin.ofNat 8 (back + 1) = next - 1 - Fin.ofNat 8 back := by
  have step : Fin.ofNat 8 (back + 1) = Fin.ofNat 8 back + 1 := by
    apply Fin.ext
    simp [Fin.ofNat, Fin.val_add]
  have cells : ∀ n b : Fin 8, n + 1 - 1 - (b + 1) = n - 1 - b := by decide
  rw [step, cells]

/-- The cells behind the one that is filled next are other cells. -/
private theorem cell_ne (next : Fin 8) {back : Nat} (h : back < 7) :
    next - 1 - Fin.ofNat 8 back ≠ next := by
  have cells : ∀ n b : Fin 8, b ≠ 7 → n - 1 - b ≠ n := by decide
  apply cells
  intro same
  have := congrArg Fin.val same
  simp [Fin.ofNat] at this
  omega

/-- A new sample becomes the latest one, and of the others at most seven stay. -/
theorem samples_push (rssi : UInt8) (h : RssiHistory) (bound : h.count ≤ 8) :
    (h.push rssi).samples = (rssi :: h.samples).take 8 := by
  obtain ⟨kept, size⟩ : ∃ kept, min (h.count + 1) 8 = kept + 1 := ⟨min h.count 7, by omega⟩
  have kept_eq : kept = min 7 h.count := by omega
  have first : ∀ n : Fin 8, n + 1 - 1 - 0 = n := by decide
  simp only [samples, push, size, List.range_succ_eq_map, List.map_cons, List.map_map,
    List.take_succ_cons, ← List.map_take, List.take_range, ← kept_eq]
  congr 1
  · simp only [Fin.isValue, Fin.ofNat_zero, first h.next, Fin.getElem_fin, Vector.getElem_set_self]
  · apply List.map_congr_left
    intro back member
    have near : back < 7 := by
      have := List.mem_range.mp member
      omega
    have other := cell_ne h.next near
    simp only [Function.comp, cell_behind]
    exact Vector.getElem_set_ne _ _ fun same => other (Fin.ext same.symm)

end RssiHistory

end WlanControl.Discovery
