import WlanControl.Request.Error

namespace WlanControl

/-!
# Keys

What the application gives to encrypt with: for WEP the key itself, for WPA the shared secret from
which the key exchange derives the keys.
-/

/-- Key material of at most 64 octets. -/
structure Key where
  octets : List UInt8
  length_le : octets.length ≤ 64
deriving DecidableEq, Repr

namespace Key

/-- The key with the given octets, unless they are too many. -/
def ofOctets (octets : List UInt8) : Except RequestError Key :=
  if h : octets.length ≤ 64 then .ok ⟨octets, h⟩ else .error .keyTooLong

/-- What may be shown of a key, which is its length alone. -/
def text (key : Key) : String := s!"KeyMaterial({key.octets.length} bytes)"

/-- A list of octets is refused as a key exactly if it is too long. -/
theorem ofOctets_eq_error_iff (octets : List UInt8) (e : RequestError) :
    ofOctets octets = .error e ↔ 64 < octets.length ∧ e = .keyTooLong := by
  unfold ofOctets
  split
  · simp; omega
  · simp; constructor
    · rintro rfl; exact ⟨by omega, rfl⟩
    · rintro ⟨_, rfl⟩; rfl

end Key

end WlanControl
