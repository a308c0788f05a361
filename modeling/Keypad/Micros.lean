/-! Times in microseconds, in words of 64 bits. They are reckoned exactly: a time that a word does
not hold has no value. -/
namespace Keypad.Micros

def ofNat? (us : Nat) : Option UInt64 := if us < UInt64.size then some (.ofNat us) else none

theorem ofNat?_eq_some_iff {us : Nat} {t : UInt64} : ofNat? us = some t ↔ t.toNat = us := by
  unfold ofNat?
  split
  · next fits =>
    rw [Option.some.injEq, ← UInt64.toNat_inj, UInt64.toNat_ofNat_of_lt' fits]
    exact eq_comm
  · next big =>
    have small := t.toNat_lt_size
    simp
    omega

theorem ofNat?_eq_none_iff {us : Nat} : ofNat? us = none ↔ UInt64.size ≤ us := by
  simp [ofNat?]

def ofMs? (ms : Nat) : Option UInt64 := ofNat? (1000 * ms)

def after? (t : UInt64) (us : Nat) : Option UInt64 := ofNat? (t.toNat + us)

theorem after?_eq_some_iff {t later : UInt64} {us : Nat} :
    after? t us = some later ↔ later.toNat = t.toNat + us := ofNat?_eq_some_iff

theorem after?_eq_none_iff {t : UInt64} {us : Nat} :
    after? t us = none ↔ UInt64.size ≤ t.toNat + us := ofNat?_eq_none_iff

end Keypad.Micros
