namespace WlanControl.Frame

/-!
# Data rates

* `Rate` — a data rate, of which the radio itself can send only the native ones;
* `RateSet` — the set of rates that a station claims to support;
* `basicRatesNative` — whether a network can be joined with the native rates alone.
-/

/-- A data rate, sent as a multiple of 500 kbit/s. -/
inductive Rate
  | rate1M
  | rate2M
  | rate5M5
  | rate11M
  | rate6M
  | rate9M
  | rate12M
  | rate18M
  | rate24M
  | rate36M
  | rate48M
  | rate54M
  /-- A rate that no standard names. -/
  | other (number : UInt8)
deriving DecidableEq, Repr

namespace Rate

/-- What a number stands for. -/
def ofNumber : UInt8 → Rate
  | 2 => .rate1M
  | 4 => .rate2M
  | 11 => .rate5M5
  | 22 => .rate11M
  | 12 => .rate6M
  | 18 => .rate9M
  | 24 => .rate12M
  | 36 => .rate18M
  | 48 => .rate24M
  | 72 => .rate36M
  | 96 => .rate48M
  | 108 => .rate54M
  | n => .other n

/-- The number that is sent. -/
def number : Rate → UInt8
  | .rate1M => 2
  | .rate2M => 4
  | .rate5M5 => 11
  | .rate11M => 22
  | .rate6M => 12
  | .rate9M => 18
  | .rate12M => 24
  | .rate18M => 36
  | .rate24M => 48
  | .rate36M => 72
  | .rate48M => 96
  | .rate54M => 108
  | .other n => n

instance : Inhabited Rate := ⟨.rate1M⟩

/-- Reading a number loses nothing of it. -/
@[simp] theorem number_ofNumber (n : UInt8) : (ofNumber n).number = n := by
  unfold ofNumber
  split <;> rfl

end Rate

/-- Whether the radio can send at this rate. -/
def Rate.isNative : Rate → Bool
  | .rate1M | .rate2M => true
  | _ => false

/-- The set of rates that a station claims to support. -/
inductive RateSet
  /-- The rates at which the radio can send. -/
  | native
  /-- All rates of the standard, for access points that refuse a station that lacks one of them.
  The radio never sends at the rates it cannot. -/
  | expanded
deriving DecidableEq, Repr

/-- The rates as they are sent, with the highest bit set on the basic ones. -/
def RateSet.octets : RateSet → List UInt8
  | .native => [0x82, 0x84]
  | .expanded => [0x82, 0x84, 0x8b, 0x96, 0x0c, 0x12, 0x18, 0x24]

/-- Whether the radio supports every basic rate of a list.  The basic rates, which have the highest
bit set, are those that each station of the network has to support. -/
def basicRatesNative (rates : List UInt8) : Bool :=
  rates.all fun rate => rate < 0x80 || (Rate.ofNumber (rate - 0x80)).isNative

/-- The native set asks for nothing that the radio lacks, the expanded one does. -/
theorem basicRatesNative_octets (set : RateSet) :
    basicRatesNative set.octets = true ↔ set = .native := by
  cases set <;> decide

end WlanControl.Frame
