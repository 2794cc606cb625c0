import WlanControl.Discovery.Matcher
import WlanControl.Sync.Lock

namespace WlanControl.Discovery

open Sync (Processor)

/-!
# The table of discovered access points

The radio writes what it hears of access points into a table of 32 slots, which the host may read at
any time.  Every slot has its own lock, and nobody waits for one: the radio drops what it cannot
write, since the next beacon brings it again.

A slot that was in use when the table was cleared could not be freed.  It is marked as stale, reads
as if it were free, and is freed by the radio the next time that it gets hold of it.

* `Slot`, `Table` — the table;
* `Table.record` — takes in an observation;
* `Table.tick`, `Table.clear` — let entries age, and forget them;
* `Table.get`, `Table.entries`, `Table.findMatching?` — what readers see.
-/

/-- The number of slots in the table. -/
def tableSize : Nat := 32

/-- The age up to which an access point counts as present.  The table is ticked on every switch of
the channel. -/
def timeout : Nat := 40

/-- Why the table refuses an operation. -/
inductive TableError
  /-- Somebody uses a slot that is needed. -/
  | busy
  /-- There is nothing to read. -/
  | notFound
deriving DecidableEq, Repr

/-- A slot of the table. -/
structure Slot where
  /-- Who uses the slot. -/
  holder : Option Processor
  entry : Option Record
  /-- The entry is not to be reported any more. -/
  stale : Bool
deriving DecidableEq, Repr

namespace Slot

/-- A slot without an entry. -/
def free : Slot := ⟨none, none, false⟩

/-- Whether somebody uses the slot. -/
def isHeld (s : Slot) : Bool := s.holder.isSome

/-- The slot without an entry that is not to be reported any more. -/
def purge (s : Slot) : Slot := if s.stale then { s with entry := none, stale := false } else s

/-- What a reader gets out of the slot. -/
def read (s : Slot) : Except TableError Record :=
  if s.isHeld then .error .busy
  else
    match s.entry with
    | some record => if s.stale then .error .notFound else .ok record
    | none => .error .notFound

/-- The slot after the table was cleared. -/
def clear (s : Slot) : Slot :=
  if s.isHeld then { s with stale := true } else { s with entry := none, stale := false }

/-- The slot one tick later, and whether its entry timed out.  Slots in use are passed over. -/
def tick (s : Slot) : Slot × Bool :=
  if s.isHeld then (s, false)
  else
    let s := s.purge
    match s.entry with
    | none => (s, false)
    | some record =>
      if timeout < record.age + 1 then ({ s with entry := none }, true)
      else ({ s with entry := some { record with age := record.age + 1 } }, false)

end Slot

/-- The table of discovered access points. -/
structure Table where
  slots : List Slot
  length_slots : slots.length = tableSize
deriving DecidableEq, Repr

/-! ### Finding the slot for an observation -/

/-- What is known of the slots that were looked at. -/
structure Survey where
  /-- The first free slot. -/
  free : Option Nat
  /-- The first one of the oldest entries, with its age. -/
  oldest : Option (Nat × Nat)
deriving DecidableEq, Repr

namespace Survey

/-- Nothing was looked at yet. -/
def start : Survey := ⟨none, none⟩

/-- A free slot was seen. -/
def seeFree (index : Nat) (v : Survey) : Survey := { v with free := v.free.or (some index) }

/-- An entry of another access point was seen.  It counts as the oldest only if it is older than all
before it. -/
def seeEntry (index age : Nat) (v : Survey) : Survey :=
  match v.oldest with
  | none => { v with oldest := some (index, age) }
  | some (_, greatest) => if greatest < age then { v with oldest := some (index, age) } else v

/-- Where a new entry goes: to a free slot, and else in place of the oldest entry. -/
def choice? (v : Survey) : Option Nat := v.free.or (v.oldest.map Prod.fst)

end Survey

/-- Looks at one slot after the other, from number `index` on, for the one that holds `bssid`, and
purges them on the way.  Ends at this slot or at one in use.  All slots have to be seen before a new
entry may be made, or an access point could get two.  The result is the number of the slot to write
to, and whether it holds the access point already. -/
def survey (bssid : MacAddress) : List Slot → Nat → Survey →
    List Slot × Except TableError (Nat × Bool)
  | [], _, v =>
    match v.choice? with
    | some index => ([], .ok (index, false))
    | none => ([], .error .notFound)
  | slot :: rest, index, v =>
    if slot.isHeld then (slot :: rest, .error .busy)
    else
      let slot := slot.purge
      match slot.entry with
      | none =>
        let (rest, found) := survey bssid rest (index + 1) (v.seeFree index)
        (slot :: rest, found)
      | some record =>
        if record.bssid = bssid then (slot :: rest, .ok (index, true))
        else
          let (rest, found) := survey bssid rest (index + 1) (v.seeEntry index record.age)
          (slot :: rest, found)

/-- Looking at slots does not change their number. -/
theorem length_survey (bssid : MacAddress) (slots : List Slot) (index : Nat) (v : Survey) :
    (survey bssid slots index v).1.length = slots.length := by
  induction slots generalizing index v with
  | nil => unfold survey; split <;> rfl
  | cons slot rest ih =>
    unfold survey
    split
    · rfl
    · simp only
      split
      · simp [ih]
      · split <;> simp [ih]

namespace Table

/-- A table without entries. -/
def empty : Table := ⟨List.replicate tableSize .free, by simp⟩

instance : Inhabited Table := ⟨empty⟩

/-- The table with every slot replaced. -/
def map (f : Slot → Slot) (t : Table) : Table := ⟨t.slots.map f, by simp [t.length_slots]⟩

/-- The table with one slot changed. -/
def modify (index : Nat) (f : Slot → Slot) (t : Table) : Table :=
  ⟨t.slots.modify index f, by simp [t.length_slots]⟩

/-! ### What the radio does -/

/-- Takes in an observation, and tells the slot it was written to.  The slot is locked once more to
write to it, and `seized` are the slots that the host got hold of since they were looked at. -/
def record (o : Observation) (seized : Nat → Bool) (t : Table) : Table × Except TableError Nat :=
  let seen := survey o.bssid t.slots 0 .start
  let t : Table := ⟨seen.1, by rw [length_survey, t.length_slots]⟩
  match seen.2 with
  | .error e => (t, .error e)
  | .ok (index, known) =>
    if seized index then (t, .error .busy)
    else
      (t.modify index fun slot =>
        let record := if known then slot.entry.getD (.blank o.bssid) else .blank o.bssid
        { slot with entry := some (record.update o) },
        .ok index)

/-- Lets all entries age by one tick and drops those that timed out, which are counted. -/
def tick (t : Table) : Table × Nat :=
  (t.map fun slot => slot.tick.1, t.slots.countP fun slot => slot.tick.2)

/-- Forgets all entries. -/
def clear (t : Table) : Table := t.map Slot.clear

/-! ### What readers see -/

/-- The entry of a slot. -/
def get (index : Nat) (t : Table) : Except TableError Record :=
  match t.slots[index]? with
  | some slot => slot.read
  | none => .error .notFound

/-- All entries with the numbers of their slots, but for those that are in use. -/
def entries (t : Table) : List (Nat × Record) :=
  t.slots.zipIdx.filterMap fun (slot, index) =>
    match slot.read with
    | .ok record => some (index, record)
    | .error _ => none

/-- The slot and the entry of an access point. -/
def findBssid? (bssid : MacAddress) (t : Table) : Option (Nat × Record) :=
  t.entries.find? fun entry => entry.2.bssid = bssid

/-- An entry that was looked for. -/
structure Match where
  /-- The number of the matcher in the list that was given. -/
  candidate : Nat
  slot : Nat
  record : Record
deriving DecidableEq, Repr

/-- The first of the candidates, numbered from `number` on, for which there is a usable entry, and
the first such entry. -/
def findMatchingFrom? (usable : Record → Bool) (entries : List (Nat × Record)) :
    Nat → List Matcher → Option Match
  | _, [] => none
  | number, candidate :: rest =>
    match entries.find? fun entry => candidate.accepts entry.2 && usable entry.2 with
    | some (slot, record) => some ⟨number, slot, record⟩
    | none => findMatchingFrom? usable entries (number + 1) rest

/-- The first of the candidates for which there is a usable entry, and the first such entry. -/
def findMatching? (candidates : List Matcher) (usable : Record → Bool) (t : Table) : Option Match :=
  findMatchingFrom? usable t.entries 0 candidates

/-! ### Holding slots -/

/-- The table with a slot in the hands of a processor, unless somebody uses the slot already. -/
def hold? (who : Processor) (index : Nat) (t : Table) : Option Table :=
  match t.slots[index]? with
  | some slot => if slot.isHeld then none else some (t.modify index ({ · with holder := some who }))
  | none => none

/-- The table with a slot in nobody's hands. -/
def release (index : Nat) (t : Table) : Table := t.modify index ({ · with holder := none })

/-- A reader gets only what stands in the slot. -/
theorem get_eq_ok {index : Nat} {t : Table} {r : Record} (h : t.get index = .ok r) :
    ∃ slot, t.slots[index]? = some slot ∧ slot.entry = some r ∧ slot.isHeld = false ∧
      slot.stale = false := by
  unfold get at h
  split at h
  · rename_i slot found
    refine ⟨slot, found, ?_⟩
    unfold Slot.read at h
    split at h
    · cases h
    · split at h
      · split at h
        · cases h
        · cases h
          simp_all
      · cases h
  · cases h

end Table

end WlanControl.Discovery
