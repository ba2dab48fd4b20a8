import PolicyProvider.Number.Binary64
/-!
# Duration — a span of time in nanoseconds

`Duration.ofSeconds?` takes a number of seconds as the exact rational it stands for and rounds it to the nearest
nanosecond, halves to the even one.
-/
namespace PolicyProvider

structure Duration where
  nanoseconds : Nat
deriving DecidableEq

namespace Duration

def perSecond : Nat := 1000000000

def ofWholeSeconds (n : Nat) : Duration := ⟨n * perSecond⟩

def seconds (d : Duration) : Nat := d.nanoseconds / perSecond

/-- The nanoseconds past the whole seconds. -/
def subsecond (d : Duration) : Nat := d.nanoseconds % perSecond

/-- The whole seconds of a span fit in sixty-four bits. -/
def secondsLimit : Nat := Nat.pow 2 64

/-- **The span of a number of seconds**, if it is finite, not negative and not too large. -/
def ofSeconds? (x : Binary64) : Option Duration :=
  if !x.isFinite || (x.isNegative && !x.isZero) then none
  else
    let n := Binary64.roundHalfEven (x.units * perSecond) Binary64.unitsPerOne
    if n / perSecond < secondsLimit then some ⟨n⟩ else none

end Duration
end PolicyProvider
