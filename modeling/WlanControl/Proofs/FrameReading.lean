import WlanControl.Frame.Received

namespace WlanControl.Frame

/-!
# Frames — where what is read stands

Whatever is read of a frame stands in its header or in its body.

* `Received.exists_of_ofOctets` — a frame that can be read has a header and a body;
* `Received.header?` — the header that a frame is read with, with `Received.header?_ofOctets`;
* `Received.ofOctets?_of_data` — the header and the body of a data frame;
* `stripLlcSnap?_eq_some` — the body of a data frame with a payload.
-/

variable {octets body : List UInt8} {header : Header} {frame : Received}

namespace Received

/-- A frame that can be read has a header and a body. -/
theorem exists_of_ofOctets (h : ofOctets octets = .ok frame) : ∃ header body,
    Header.ofOctets? octets = some (header, body) ∧ ofBody? header body = some frame := by
  unfold ofOctets at h
  split at h
  · rename_i found hbind
    cases h
    obtain ⟨⟨header, body⟩, hheader, hbody⟩ := Option.bind_eq_some_iff.mp hbind
    exact ⟨header, body, hheader, hbody⟩
  · cases h

/-- The header that a frame is read with, if the link layer looks at it. -/
def header? : Received → Option Header
  | .authentication header _ | .associationRequest header _ _ | .associationResponse header _ _
  | .deauthentication header _ | .disassociation header _ | .data header _ => some header
  | .beacon _ | .probeResponse _ | .probeRequest _ _ | .other => none

/-- A management frame keeps its header, and is no data frame. -/
theorem spec_ofManagement? (h : ofManagement? header body = some frame) :
    (∀ kept, frame.header? = some kept → kept = header) ∧
      ∀ header' body', frame ≠ .data header' body' := by
  -- Each kind hands its header on once its fixed fields are read.
  unfold ofManagement? at h
  split at h
  all_goals
    simp only [bind, Option.bind_eq_some_iff, Option.some.injEq] at h
    grind [header?]

theorem header?_ofBody? {kept : Header} (h : ofBody? header body = some frame)
    (hkept : frame.header? = some kept) : kept = header := by
  unfold ofBody? at h
  split at h
  · exact (spec_ofManagement? h).1 kept hkept
  · split at h
    · cases h
      cases hkept
      rfl
    · cases h
      cases hkept
  · cases h
    cases hkept

/-- The header that a frame is read with is the one that its octets start with. -/
theorem header?_ofOctets {kept : Header} (h : ofOctets octets = .ok frame)
    (hheader : Header.ofOctets? octets = some (header, body))
    (hkept : frame.header? = some kept) : kept = header := by
  obtain ⟨header', body', hheader', hbody⟩ := exists_of_ofOctets h
  cases hheader.symm.trans hheader'
  exact header?_ofBody? hbody hkept

/-- A data frame is its header and its body. -/
theorem ofOctets?_of_data (h : ofOctets octets = .ok (.data header body)) :
    Header.ofOctets? octets = some (header, body) := by
  obtain ⟨header', body', hheader, hbody⟩ := exists_of_ofOctets h
  rw [hheader]
  unfold ofBody? at hbody
  split at hbody
  · exact absurd rfl ((spec_ofManagement? hbody).2 header body)
  · split at hbody
    · cases hbody
      rfl
    · cases hbody
  · cases hbody

end Received

/-- A body with a payload is what stands in front of it, its type and the payload. -/
theorem stripLlcSnap?_eq_some {type : UInt16} {payload : List UInt8}
    (h : stripLlcSnap? body = some (type, payload)) :
    body = llcSnap ++ bigEndian16 type ++ payload := by
  unfold stripLlcSnap? at h
  split at h
  · rename_i hhead
    split at h
    · rename_i high low rest hrest
      cases h
      have htype : bigEndian16 (word16 low high) = [high, low] := by
        have := littleEndian16_word16 low high
        simp_all [bigEndian16, littleEndian16]
      rw [← List.take_append_drop 6 body, hhead, hrest, htype]
      rfl
    · cases h
  · cases h

end WlanControl.Frame
