import WlanControl.Frame.Element
import WlanControl.Proofs.FrameDrafts

namespace WlanControl.Frame

/-!
# Information elements — chains of them

The elements of a frame stand one after the other up to its end, where the last one may be cut
short.

* `Element.IsCountable` — one octet can count what the element holds;
* `chain` — elements one after the other, as they are sent;
* `CutShort` — octets that end inside of their first element;
* `nextElement`, `answer` — a reader that is asked for one element after the other;
* `Splits` — octets as the elements that stand in them, written again, and what is cut short, with
  `exists_splits`;
* `Yields` — all that the reader answers, with `yields_elements`.

Main statements: `elements_chain`, the elements of a chain are read back from it, and octets that
are cut short add nothing to them, and `chains_read_back`, for elements that are written and for
octets of whomever that are read.
-/

/-- One octet can count the contents of the element. -/
def Element.IsCountable (element : Element) : Prop := element.contents.length ≤ 255

instance (element : Element) : Decidable element.IsCountable :=
  inferInstanceAs (Decidable (_ ≤ _))

/-- The element as it is sent. -/
def Element.octets (element : Element) : List UInt8 :=
  (Field.element element.id element.contents).encoding

/-- Elements one after the other, as they are sent. -/
def chain (es : List Element) : List UInt8 := es.flatMap Element.octets

/-- Octets that end before their first element does. -/
inductive CutShort : List UInt8 → Prop
  | nothing : CutShort []
  | withoutLength (id : UInt8) : CutShort [id]
  /-- Fewer octets are left than the length says. -/
  | withoutEnd {id length : UInt8} {part : List UInt8} (h : part.length < length.toNat) :
    CutShort (id :: length :: part)

/-- There is no element in octets that are cut short. -/
theorem elements_of_cutShort {octets : List UInt8} (h : CutShort octets) :
    elements octets = [] := by
  cases h with
  | nothing => exact elements_nil
  | withoutLength id => simp [elements]
  | withoutEnd hpart =>
    unfold elements
    rw [if_neg (by omega)]

/-- An element is read back from what is written for it, and the chain goes on behind it. -/
theorem elements_octets_append {element : Element} (hcount : element.IsCountable)
    (rest : List UInt8) : elements (element.octets ++ rest) = element :: elements rest :=
  elements_append hcount rest

/-- The elements of a chain are read back from it, whatever is cut short behind them. -/
theorem elements_chain {es : List Element} {cut : List UInt8}
    (hes : ∀ element ∈ es, element.IsCountable) (hcut : CutShort cut) :
    elements (chain es ++ cut) = es := by
  induction es with
  | nil => exact elements_of_cutShort hcut
  | cons element rest ih =>
    obtain ⟨hcount, hrest⟩ := List.forall_mem_cons.mp hes
    unfold chain at ih ⊢
    rw [List.flatMap_cons, List.append_assoc, elements_octets_append hcount, ih hrest]

/-! ### Chains that are written -/

/-- The field that an element is written as. -/
def Element.field (element : Element) : Field := .element element.id element.contents

/-- Two octets stand in front of the contents. -/
theorem Element.length_octets (element : Element) :
    element.octets.length = 2 + element.contents.length := by
  simp [octets, Field.encoding, Field.slices]
  omega

theorem length_chain_ge (es : List Element) : 2 * es.length ≤ (chain es).length := by
  induction es with
  | nil => exact Nat.le_refl 0
  | cons element rest ih =>
    have hcons : chain (element :: rest) = element.octets ++ chain rest := rfl
    have hlength := element.length_octets
    rw [hcons, List.length_append, List.length_cons]
    omega

/-- Elements that can be counted are written as their chain, if there is space for it. -/
theorem encode?_field {es : List Element} (hes : ∀ element ∈ es, element.IsCountable)
    {capacity : Nat} (h : (chain es).length ≤ capacity) :
    encode? capacity (es.map Element.field) = some (chain es) := by
  have hcount : ∀ field ∈ es.map Element.field, field.isCountable = true := by
    intro field hfield
    obtain ⟨element, helement, rfl⟩ := List.mem_map.mp hfield
    exact decide_eq_true (hes element helement)
  have hchain : (es.map Element.field).flatMap Field.encoding = chain es := List.flatMap_map ..
  rw [← hchain] at h ⊢
  exact encode?_of_fits hcount h

/-! ### One element after the other -/

/-- What a reader answers that is asked for the next element, and the octets that it keeps for the
next time.  An element that is cut short is dropped with all that is left. -/
def nextElement : List UInt8 → Option Element × List UInt8
  | id :: length :: rest =>
    if length.toNat ≤ rest.length then
      (some ⟨id, rest.take length.toNat⟩, rest.drop length.toNat)
    else (none, [])
  | rest => (none, rest)

/-- What the reader answers after it was asked so many times before. -/
def answer : Nat → List UInt8 → Option Element
  | 0, octets => (nextElement octets).1
  | asked + 1, octets => answer asked (nextElement octets).2

/-- The reader finds an element that stands in front of all that it keeps, or the octets are cut
short and so is what it keeps of them. -/
theorem nextElement_cases (octets : List UInt8) :
    (∃ element rest, nextElement octets = (some element, rest) ∧ element.IsCountable ∧
      octets = element.octets ++ rest) ∨
    CutShort octets ∧ ∃ rest, nextElement octets = (none, rest) ∧ CutShort rest := by
  unfold nextElement
  split
  · rename_i id length rest
    by_cases hfits : length.toNat ≤ rest.length
    · left
      rw [if_pos hfits]
      have hlength : (rest.take length.toNat).length = length.toNat :=
        List.length_take_of_le hfits
      refine ⟨⟨id, rest.take length.toNat⟩, rest.drop length.toNat, rfl, ?_, ?_⟩
      · show (rest.take length.toNat).length ≤ 255
        rw [hlength]
        exact Nat.le_of_lt_succ length.toNat_lt
      · simp [Element.octets, Field.encoding, Field.slices, hlength]
    · right
      rw [if_neg hfits]
      exact ⟨.withoutEnd (Nat.lt_of_not_le hfits), [], rfl, .nothing⟩
  · rename_i hother
    have hcut : CutShort octets := by
      rcases octets with _ | ⟨id, _ | ⟨length, rest⟩⟩
      · exact .nothing
      · exact .withoutLength id
      · exact absurd rfl (hother id length rest)
    exact .inr ⟨hcut, octets, rfl, hcut⟩

/-- The reader answers with the elements in their order, and with none once there are no more. -/
theorem answer_eq (asked : Nat) (octets : List UInt8) :
    answer asked octets = (elements octets)[asked]? := by
  induction asked generalizing octets with
  | zero =>
    unfold answer
    rcases nextElement_cases octets with ⟨element, rest, hnext, hcount, rfl⟩ |
      ⟨hcut, rest, hnext, -⟩
    · rw [hnext, elements_octets_append hcount]
      rfl
    · rw [hnext, elements_of_cutShort hcut]
      rfl
  | succ asked ih =>
    unfold answer
    rcases nextElement_cases octets with ⟨element, rest, hnext, hcount, rfl⟩ |
      ⟨hcut, rest, hnext, hrest⟩
    · rw [hnext, elements_octets_append hcount]
      exact ih rest
    · -- What is kept of octets that are cut short holds no element either.
      rw [hnext, elements_of_cutShort hcut]
      exact (ih rest).trans (by rw [elements_of_cutShort hrest]; rfl)

/-! ### Octets of whomever -/

/-- Octets are the elements that stand in them, written one after the other, and something behind
them that is cut short. -/
structure Splits (octets : List UInt8) (es : List Element) (cut : List UInt8) : Prop where
  countable : ∀ element ∈ es, element.IsCountable
  eq_append : octets = chain es ++ cut
  cutShort : CutShort cut

theorem Splits.cons {octets : List UInt8} {es : List Element} {cut : List UInt8}
    (h : Splits octets es cut) {element : Element} (hcount : element.IsCountable) :
    Splits (element.octets ++ octets) (element :: es) cut where
  countable := List.forall_mem_cons.mpr ⟨hcount, h.countable⟩
  eq_append := by
    rw [h.eq_append, ← List.append_assoc]
    rfl
  cutShort := h.cutShort

/-- All octets are a chain of elements up to where they are cut short. -/
theorem exists_splits (octets : List UInt8) : ∃ cut, Splits octets (elements octets) cut := by
  -- By induction on how many octets are left.
  induction hlength : octets.length using Nat.strongRecOn generalizing octets with
  | ind left ih =>
    rcases nextElement_cases octets with ⟨element, rest, -, hcount, rfl⟩ | ⟨hcut, -⟩
    · have hshorter : rest.length < left := by
        rw [← hlength, List.length_append, element.length_octets]
        omega
      obtain ⟨cut, hsplits⟩ := ih rest.length hshorter rest rfl
      rw [elements_octets_append hcount]
      exact ⟨cut, hsplits.cons hcount⟩
    · rw [elements_of_cutShort hcut]
      exact ⟨octets, by simp, rfl, hcut⟩

/-- Asked for one element after the other, a reader answers with these and then with none for ever.
There are at most half as many of them as there are octets. -/
structure Yields (octets : List UInt8) (es : List Element) : Prop where
  answers : ∀ asked, answer asked octets = es[asked]?
  ends : 2 * es.length ≤ octets.length

theorem yields_elements (octets : List UInt8) : Yields octets (elements octets) where
  answers asked := answer_eq asked octets
  ends := by
    obtain ⟨cut, hsplits⟩ := exists_splits octets
    have hwhole := congrArg List.length hsplits.eq_append
    have hchain := length_chain_ge (elements octets)
    rw [List.length_append] at hwhole
    omega

/-- Elements that can be counted are written one after the other wherever there is space for them,
and a reader finds just these.  Of any octets at all a reader finds so many elements that, written
again, they are these octets up to where an element is cut short. -/
theorem chains_read_back :
    (∀ (es : List Element) (capacity : Nat), (∀ element ∈ es, element.IsCountable) →
      (chain es).length ≤ capacity →
      encode? capacity (es.map Element.field) = some (chain es) ∧ elements (chain es) = es ∧
        Yields (chain es) es) ∧
    ∀ octets : List UInt8, Yields octets (elements octets) ∧ ∃ cut,
      Splits octets (elements octets) cut ∧
        encode? octets.length ((elements octets).map Element.field) =
          some (chain (elements octets)) := by
  constructor
  · intro es capacity hes hroom
    have hread : elements (chain es) = es := by
      have hwhole := elements_chain hes .nothing
      rwa [List.append_nil] at hwhole
    refine ⟨encode?_field hes hroom, hread, ?_⟩
    have hyields := yields_elements (chain es)
    rwa [hread] at hyields
  · intro octets
    obtain ⟨cut, hsplits⟩ := exists_splits octets
    have hroom : (chain (elements octets)).length ≤ octets.length := by
      have hwhole := congrArg List.length hsplits.eq_append
      rw [List.length_append] at hwhole
      omega
    exact ⟨yields_elements octets, cut, hsplits, encode?_field hsplits.countable hroom⟩

/-- A name, as much as an element can hold, and nothing. -/
def variedElements : List Element :=
  [⟨ssidId, [0x61, 0x62]⟩, ⟨vendorId, List.replicate 255 7⟩, ⟨ssidId, []⟩]

/-- A name, and rates that are cut short. -/
def cutElements : List UInt8 := [0, 2, 0x61, 0x62, 1, 8, 0x82]

theorem chains_read_back_variedElements :
    (∀ element ∈ variedElements, element.IsCountable) ∧ (chain variedElements).length ≤ 263 ∧
      encode? 263 (variedElements.map Element.field) = some (chain variedElements) ∧
      elements (chain variedElements) = variedElements ∧
      Yields (chain variedElements) variedElements ∧ Yields cutElements [⟨ssidId, [0x61, 0x62]⟩] ∧
      ∃ cut, Splits cutElements [⟨ssidId, [0x61, 0x62]⟩] cut := by
  have hcount : ∀ element ∈ variedElements, element.IsCountable := by decide +kernel
  have hroom : (chain variedElements).length ≤ 263 := by decide +kernel
  have hname : ∀ element ∈ [(⟨ssidId, [0x61, 0x62]⟩ : Element)], element.IsCountable := by decide
  have hcut : CutShort [1, 8, 0x82] := .withoutEnd (by decide)
  have hread : elements cutElements = [⟨ssidId, [0x61, 0x62]⟩] := elements_chain hname hcut
  obtain ⟨hwritten, hback, hyields⟩ := chains_read_back.1 variedElements 263 hcount hroom
  obtain ⟨hfound, cut, hsplits, -⟩ := chains_read_back.2 cutElements
  rw [hread] at hfound hsplits
  exact ⟨hcount, hroom, hwritten, hback, hyields, hfound, cut, hsplits⟩

end WlanControl.Frame
