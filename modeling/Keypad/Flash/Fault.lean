/-! Faults that strike calls of the flash chip. A fault waits for calls of one kind, passes over
some of them and then fails a number of them, each after part of the work is done. -/
namespace Keypad.Flash

inductive Call where
  | read
  | erase
  | write
  deriving DecidableEq, Repr, Inhabited

inductive FlashError where
  | unknown
  | notAligned
  | outOfBounds
  deriving DecidableEq, Repr, Inhabited

namespace FlashError

def name : FlashError → String
  | unknown => "Unknown"
  | notAligned => "NotAligned"
  | outOfBounds => "OutOfBounds"

def kindName : FlashError → String
  | unknown => "Other"
  | e => e.name

end FlashError

/-- A fault passes over `skip` calls of its kind and fails the next `count` with `error`; a
failing erase or write gets as far as its first `reach` bytes. -/
structure Fault where
  on : Call
  skip : Nat := 0
  count : Nat := 1
  error : FlashError := .unknown
  reach : Nat := 0
  deriving DecidableEq, Repr, Inhabited

/-- The fault that strikes a call, and the faults after it. The first that waits for this kind of
call and has nothing left to pass over strikes; those before it pass over the call, and those
behind it do not see it. -/
def strike (call : Call) : List Fault → Option Fault × List Fault
  | [] => (none, [])
  | f :: rest =>
    if f.on = call ∧ 0 < f.count then
      if f.skip = 0 then (some f, { f with count := f.count - 1 } :: rest)
      else
        let (struck, rest) := strike call rest
        (struck, { f with skip := f.skip - 1 } :: rest)
    else
      let (struck, rest) := strike call rest
      (struck, f :: rest)

theorem strike_of_spent (call : Call) (faults : List Fault) (spent : ∀ f ∈ faults, f.count = 0) :
    strike call faults = (none, faults) := by
  induction faults with
  | nil => rfl
  | cons f rest ih =>
    have waits : ¬ (f.on = call ∧ 0 < f.count) := by simp [spent f (by simp)]
    rw [strike, if_neg waits, ih fun f member => spent f (by simp [member])]

end Keypad.Flash
