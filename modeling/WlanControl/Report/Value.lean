import WlanControl.Report.Name

namespace WlanControl

/-!
# Reports

A report is a value laid out for a reader or a tool, as a tree of texts, numbers and named fields.

* `Report` — the tree;
* `Reported` — values that have a report;
* `Report.hex` — octets in hexadecimal.
-/

/-- A value laid out for a reader. -/
inductive Report
  | absent
  | flag (value : Bool)
  | number (value : Nat)
  | text (value : String)
  | list (items : List Report)
  | fields (entries : List (String × Report))

namespace Report

/-- Values that have a report. -/
class Reported (α : Type) where
  /-- The report of a value. -/
  report : α → Report

export Reported (report)

variable {α β ε : Type}

/-- Octets in hexadecimal. -/
def hex (octets : List UInt8) : Report := .text (hexText octets)

/-- A value with a name is reported by it. -/
instance [Named α] : Reported α where
  report value := .text (name value)

instance : Reported Report where
  report value := value

instance : Reported Unit where
  report _ := .absent

instance : Reported Bool where
  report := .flag

instance : Reported Nat where
  report := .number

instance : Reported UInt8 where
  report n := .number n.toNat

instance : Reported UInt16 where
  report n := .number n.toNat

instance : Reported UInt32 where
  report n := .number n.toNat

instance : Reported String where
  report := .text

instance [Reported α] : Reported (Option α) where
  report
    | some value => report value
    | none => .absent

instance [Reported α] : Reported (List α) where
  report values := .list (values.map report)

instance [Reported α] [Reported β] : Reported (α × β) where
  report pair := .list [report pair.1, report pair.2]

/-- A result is reported next to whether it is one, and an error by the name of its cause. -/
instance [Named ε] [Reported α] : Reported (Except ε α) where
  report
    | .ok value => .fields [("ok", report value)]
    | .error e => .fields [("error", report (name e))]

instance : Reported MacAddress where
  report address := .text address.text

instance : Reported Ssid where
  report ssid := hex ssid.octets

/-- The octets of a key are shown, so its report is for nobody but its owner. -/
instance : Reported Key where
  report key := hex key.octets

end Report

end WlanControl
