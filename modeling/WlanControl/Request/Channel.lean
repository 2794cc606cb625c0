import WlanControl.Request.Error

namespace WlanControl

/-!
# Channels

The radio can tune to the channels 1 to 13.
-/

/-- The highest channel of the radio. -/
def maxChannel : UInt8 := 13

/-- Refuses the numbers that are no channel of the radio. -/
def checkChannel (channel : UInt8) : Except RequestError UInt8 :=
  if 1 ≤ channel ∧ channel ≤ maxChannel then .ok channel else .error .invalidChannel

/-- A channel passes the check unchanged, and exactly if the radio has it. -/
theorem checkChannel_eq_ok_iff (channel c : UInt8) :
    checkChannel channel = .ok c ↔ c = channel ∧ 1 ≤ channel ∧ channel ≤ maxChannel := by
  unfold checkChannel
  split <;> rename_i h
  · constructor
    · intro same
      injection same with same
      exact ⟨same.symm, h⟩
    · rintro ⟨rfl, _⟩
      rfl
  · simp [h]

end WlanControl
