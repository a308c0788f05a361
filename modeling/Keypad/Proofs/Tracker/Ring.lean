import Keypad.Proofs.Tracker.Commands
import Keypad.Proofs.Tracker.Trailing

/-! The ring of sessions. Whatever the tracker is asked to do, it writes in the place of the session
being tracked and nowhere else, so that a closed session stays as it was closed until the openings
have come round to its place. -/
namespace Keypad

namespace SessionTable

variable {t t' t'' : SessionTable} {n m : Nat}

/-- A table after so many openings: the place of the session being tracked went on by as many, and
the places that it was not in are as they were. -/
structure Passes (openings : Nat) (t t' : SessionTable) : Prop where
  active : t'.active.toNat = (t.active.toNat + openings) % maxSessions
  kept :
    ∀ place < maxSessions, (∀ j ≤ openings, place ≠ (t.active.toNat + j) % maxSessions) →
      t'.session? place = t.session? place

theorem session?_setCurrent_of_ne {place : Nat} (other : place ≠ t.active.toNat) (s : Session) :
    (t.setCurrent s).session? place = t.session? place := by
  rw [session?, session?, setCurrent, Vector.getElem?_setIfInBounds, if_neg other.symm]

theorem session?_opened (within : t.active.toNat < maxSessions) (date : DateTime) :
    (t.opened date).session? (t.opened date).active.toNat = some { date } := by
  have below : (t.opened date).active.toNat < maxSessions := by
    rw [toNat_active_opened within]
    exact Nat.mod_lt _ (by decide)
  rw [session?, Vector.getElem?_eq_getElem below, sessions_opened within,
    if_pos (toNat_active_opened within date).symm]

namespace Passes

theorem within (passes : t.Passes n t') : t'.active.toNat < maxSessions := by
  rw [passes.active]
  exact Nat.mod_lt _ (by decide)

theorem setCurrent (within : t.active.toNat < maxSessions) (s : Session) :
    t.Passes 0 (t.setCurrent s) := by
  have here : (t.active.toNat + 0) % maxSessions = t.active.toNat := Nat.mod_eq_of_lt within
  refine ⟨here.symm, ?_⟩
  intro place _ passed
  exact session?_setCurrent_of_ne (here ▸ passed 0 (Nat.le_refl 0)) s

theorem retouched (within : t.active.toNat < maxSessions) (retouched : t.Retouched t') :
    t.Passes 0 t' := by
  obtain ⟨s, -⟩ := retouched
  exact setCurrent within s

theorem trails {ticks : Nat} (within : t.active.toNat < maxSessions) (trails : t.Trails ticks t') :
    t.Passes 0 t' := by
  obtain ⟨s, -⟩ := trails
  exact setCurrent within s

theorem opened (within : t.active.toNat < maxSessions) (date : DateTime) :
    t.Passes 1 (t.opened date) := by
  have next := toNat_active_opened within date
  refine ⟨next, ?_⟩
  intro place _ passed
  exact session?_setCurrent_of_ne (t := { t with active := (t.opened date).active })
    (next ▸ passed 1 (Nat.le_refl 1)) _

theorem trans (first : t.Passes n t') (second : t'.Passes m t'') : t.Passes (n + m) t'' := by
  have moved : ∀ j, (t'.active.toNat + j) % maxSessions =
      (t.active.toNat + (n + j)) % maxSessions := by
    intro j
    rw [first.active, Nat.mod_add_mod, Nat.add_assoc]
  constructor
  · rw [second.active, moved]
  · intro place below passed
    rw [second.kept place below, first.kept place below]
    · exact fun j small => passed j (by omega)
    · intro j small
      rw [moved]
      exact passed (n + j) (by omega)

end Passes

end SessionTable

namespace Tracker

variable {g : Geometry} {d d' d'' : Device g} {n m ticks : Nat}

structure Advances (openings : Nat) (d d' : Device g) : Prop where
  behind : ∃ ticks, Behind d' ticks
  table : d.tracker.table.Passes openings d'.tracker.table

theorem Advances.trans (first : Advances n d d') (second : Advances m d' d'') :
    Advances (n + m) d d'' := ⟨second.behind, first.table.trans second.table⟩

theorem Behind.advances (behind : Behind d ticks) : Advances 0 d d :=
  ⟨⟨ticks, behind⟩, .retouched behind.within (.refl _)⟩

theorem Retouches.advances (behind : Behind d ticks) (retouches : Retouches d d') :
    Advances 0 d d' :=
  ⟨⟨ticks, behind.retouches retouches⟩, .retouched behind.within retouches.table⟩

theorem Saves.advances {tracker : Tracker} (behind : Behind d ticks) (saves : Saves d tracker d')
    (valid : tracker.table.magic = d.tracker.table.magic)
    (passes : d.tracker.table.Passes n tracker.table) : Advances n d d' := by
  refine ⟨⟨0, saves.behind behind.healthy (valid.trans behind.valid) passes.within⟩, ?_⟩
  rw [saves.tracker_eq]
  exact passes

theorem Opens.advances (behind : Behind d ticks) (opens : Opens d d') : Advances 1 d d' := by
  obtain ⟨⟨t, retouched, saves⟩, -⟩ := opens
  have first := SessionTable.Passes.retouched behind.within retouched
  exact saves.advances behind retouched.magic_eq (first.trans (.opened first.within d.today))

theorem Ticked.advances (behind : Behind d ticks) (ticked : Ticked d d') : Advances 0 d d' := by
  cases ticked with
  | idle _ same =>
    subst same
    exact behind.advances
  | counted s _ counted _ tracker store _ =>
    have passes := SessionTable.Passes.setCurrent behind.within s
    refine ⟨⟨ticks + 1, ?_, ?_, ?_, ?_⟩, ?_⟩
    · rw [store]
      exact behind.healthy
    · rw [tracker]
      exact behind.valid
    · rw [tracker]
      exact behind.within
    · rw [tracker, storedTable, store]
      exact behind.trails.counted behind.within counted
    · rw [tracker]
      exact passes
  | saved s _ _ _ saves =>
    exact saves.advances behind rfl (.setCurrent behind.within s)

theorem tick_advances (behind : Behind d ticks) : Advances 0 d (tick d).2 := by
  cases tick_cases d with
  | inl ticked => exact ticked.advances behind
  | inr same =>
    rw [same]
    exact behind.advances

theorem start_advances (behind : Behind d ticks) (healthy : d'.settings.store.Healthy)
    (stored : storedTable d' = storedTable d) : Advances 0 d (start d') := by
  obtain ⟨started, retouched⟩ := behind.start_of_stored healthy stored
  have trails := SessionTable.Passes.trails behind.within behind.trails
  exact ⟨⟨0, started⟩, trails.trans (.retouched trails.within retouched)⟩

def opensNext (event : ButtonEvent) : Bool := event.key == functionKey && event.long

theorem press_advances (behind : Behind d ticks) (event : ButtonEvent) :
    Advances (opensNext event).toNat d (press d event).2 := by
  cases press_pressed d event with
  | retouched plain retouches =>
    have closed : opensNext event = false := by simpa [opensNext] using plain
    rw [closed]
    exact retouches.advances behind
  | opened function long opens =>
    have opening : opensNext event = true := by simp [opensNext, function, long]
    rw [opening]
    exact opens.advances behind

/-- The presses of a queue that are answered: all up to the first that overflows a counter. -/
def answered (d : Device g) : List ButtonEvent → List ButtonEvent
  | [] => []
  | event :: rest =>
    match press d event with
    | (.ok (), d) => event :: answered d rest
    | (.error _, _) => [event]

/-- What a tracker goes through once it has come up. It takes presses from a queue, or is given one
at a time. A counter that overflows ends a call early, and what was done until then stays. -/
inductive Event where
  /-- Presses come in and time goes on. -/
  | outside (input : Input) (today : DateTime)
  | press (event : ButtonEvent)
  | handle
  | tick
  | openSession
  | setMediumMs (ms : UInt64)
  | setLongMs (ms : UInt64)
  | stop
  | start
  /-- The device comes up again on its chip, and the tracker with it. -/
  | reboot (input : Input) (longPressMs : UInt32) (board : List ButtonConfig) (today : DateTime)

namespace Event

def run (d : Device g) : Event → Device g
  | outside input today => { d with settings.input := input, today }
  | press event => (Tracker.press d event).2
  | handle => (Tracker.handle d).2
  | tick => (Tracker.tick d).2
  | openSession => (Tracker.openSession d).2
  | setMediumMs ms => (Tracker.setMediumMs d ms).2
  | setLongMs ms => (Tracker.setLongMs d ms).2
  | stop => Tracker.stop d
  | start => Tracker.start d
  | reboot input longPressMs board today =>
    match Store.attach d.settings.store.chip with
    | .ok store => Tracker.start (.boot store input longPressMs board today)
    | .error _ => d

def opens : Event → Bool
  | press event => opensNext event
  | openSession => true
  | _ => false

def openings (d : Device g) : Event → Nat
  | handle => (answered d.drain.2 d.drain.1).countP opensNext
  | event => event.opens.toNat

end Event

def runEvents (d : Device g) (events : List Event) : Device g := events.foldl Event.run d

def openings (d : Device g) : List Event → Nat
  | [] => 0
  | event :: rest => event.openings d + openings (event.run d) rest

theorem countP_opensNext (event : ButtonEvent) (rest : List ButtonEvent) :
    (event :: rest).countP opensNext = (opensNext event).toNat + rest.countP opensNext := by
  rw [List.countP_cons, Nat.add_comm]
  cases opensNext event <;> rfl

theorem pressAll_advances (behind : Behind d ticks) (events : List ButtonEvent) :
    Advances ((answered d events).countP opensNext) d (pressAll d events).2 := by
  induction events generalizing d ticks with
  | nil => exact behind.advances
  | cons event rest ih =>
    have first := press_advances behind event
    rw [pressAll, answered]
    generalize press d event = r at first ⊢
    obtain ⟨_ | _, between⟩ := r
    · simp only [countP_opensNext]
      exact first
    · obtain ⟨_, later⟩ := first.behind
      simp only [countP_opensNext]
      exact first.trans (ih later)

theorem Event.advances (behind : Behind d ticks) (event : Event) :
    Advances (event.openings d) d (event.run d) := by
  have healthy := behind.healthy
  cases event with
  | outside input today =>
    exact ⟨⟨ticks, healthy, behind.valid, behind.within, behind.trails⟩, behind.advances.table⟩
  | press event => exact press_advances behind event
  | handle =>
    have drained := (drain_retouches d).advances behind
    obtain ⟨_, later⟩ := drained.behind
    have answers := drained.trans (pressAll_advances later d.drain.1)
    rw [Nat.zero_add] at answers
    exact answers
  | tick => exact tick_advances behind
  | openSession => exact (openSession_opens d).advances behind
  | setMediumMs ms =>
    have passes := behind.advances.table.active
    exact (setMediumMs_saves d ms).advances behind rfl ⟨passes, fun _ _ _ => rfl⟩
  | setLongMs ms =>
    have passes := behind.advances.table.active
    exact (setLongMs_saves d ms).advances behind rfl ⟨passes, fun _ _ _ => rfl⟩
  | stop => exact (stop_saves d).advances behind rfl behind.advances.table
  | start => exact start_advances behind healthy rfl
  | reboot input longPressMs board today =>
    obtain ⟨store, attached, -⟩ := Store.attach_of_fits _ healthy.fits
    obtain ⟨booted, stored⟩ := storedTable_boot healthy attached input longPressMs board today
    rw [run, attached]
    exact start_advances behind booted stored

theorem runEvents_advances (behind : Behind d ticks) (events : List Event) :
    Advances (openings d events) d (runEvents d events) := by
  induction events generalizing d ticks with
  | nil => exact behind.advances
  | cons event rest ih =>
    have first := event.advances behind
    obtain ⟨_, later⟩ := first.behind
    exact first.trans (ih later)

def presses (d : Device g) : List Event :=
  .outside d.drain.2.settings.input d.today :: (answered d.drain.2 d.drain.1).map .press

theorem pressAll_eq_run (d : Device g) (events : List ButtonEvent) :
    (pressAll d events).2 = runEvents d ((answered d events).map .press) := by
  induction events generalizing d with
  | nil => rfl
  | cons event rest ih =>
    have ran : ∀ more : List Event,
        runEvents d (.press event :: more) = runEvents (press d event).2 more := fun _ => rfl
    rw [pressAll, answered]
    generalize press d event = r at ran ⊢
    obtain ⟨_ | _, between⟩ := r
    · exact (ran []).symm
    · exact (ih between).trans (ran _).symm

theorem handle_eq_run (d : Device g) : (handle d).2 = runEvents d (presses d) :=
  pressAll_eq_run d.drain.2 d.drain.1

structure Fresh (d d' : Device g) : Prop where
  active : d'.tracker.table.active.toNat = (d.tracker.table.active.toNat + 1) % 31
  memory : d'.tracker.table.session? d'.tracker.table.active.toNat = some { date := d.today }
  stored : storedTable d' = d'.tracker.table

/-- A session that was closed in this place stays as it is through the next 29 openings, in memory
as in the store, and the 30th comes round to it. -/
def Frozen (place : Nat) (s : Session) (d : Device g) : Prop :=
  ∀ events,
    let later := runEvents d events
    (openings d events < 30 →
      later.tracker.table.session? place = some s ∧ (storedTable later).session? place = some s) ∧
    (openings d events = 30 → later.tracker.table.active.toNat = place)

structure Rotates (d : Device g) : Prop where
  within : d.tracker.table.active.toNat < 31
  goes_round :
    ∀ events,
      (runEvents d events).tracker.table.active.toNat =
        (d.tracker.table.active.toNat + openings d events) % 31
  opens : ∀ event : Event, event.opens = true → Fresh d (event.run d)
  closes :
    ∀ event : Event, event.opens = true →
      ∃ s, Frozen d.tracker.table.active.toNat s (event.run d)
  /-- An opening in the middle of a queue is one of a press by itself. -/
  handled : Event.handle.run d = runEvents d (presses d)

theorem Opens.fresh (behind : Behind d ticks) (opens : Opens d d') : Fresh d d' := by
  obtain ⟨⟨t, retouched, saves⟩, -⟩ := opens
  have within : t.active.toNat < maxSessions := retouched.active_eq ▸ behind.within
  have saved := saves.saved behind.healthy
  have opened := SessionTable.Passes.opened within d.today
  constructor
  · rw [saves.tracker_eq, ← retouched.active_eq]
    exact opened.active
  · rw [saves.tracker_eq]
    exact SessionTable.session?_opened within d.today
  · rw [storedTable_of_saved opened.within saved, saves.tracker_eq]

theorem Event.opens_of_opens {event : Event} (opens : event.opens = true) :
    Opens d (event.run d) := by
  cases event with
  | press event =>
    cases press_pressed d event with
    | retouched plain _ => exact absurd (by simpa [Event.opens, opensNext] using opens) plain
    | opened _ _ opens => exact opens
  | openSession => exact openSession_opens d
  | _ => contradiction

theorem frozen_of_advances {place : Nat} {s : Session} (behind : Behind d ticks)
    (below : place < maxSessions) (next : d.tracker.table.active.toNat = (place + 1) % maxSessions)
    (closed : d.tracker.table.session? place = some s) : Frozen place s d := by
  intro events later
  have advances : Advances (openings d events) d later := runEvents_advances behind events
  generalize openings d events = count at advances
  simp only [maxSessions] at below next
  have active : later.tracker.table.active.toNat = (place + 1 + count) % 31 := by
    rw [advances.table.active, next]
    simp only [maxSessions]
    omega
  constructor
  · intro few
    obtain ⟨_, trailing⟩ := advances.behind
    -- The openings so far went through other places, and the stored table is behind in the last
    -- one.
    have kept : later.tracker.table.session? place = some s := by
      rw [advances.table.kept place below, closed]
      intro j small
      rw [next]
      simp only [maxSessions]
      omega
    have stored := SessionTable.Passes.trails trailing.within trailing.trails
    refine ⟨kept, ?_⟩
    rw [stored.kept place below, kept]
    intro j small
    rw [active]
    simp only [maxSessions]
    omega
  · intro round
    rw [active, round]
    omega

theorem Behind.rotates (behind : Behind d ticks) : Rotates d where
  within := behind.within
  goes_round events := (runEvents_advances behind events).table.active
  opens _ opens := (Event.opens_of_opens opens).fresh behind
  closes event opens := by
    have fresh := (Event.opens_of_opens opens).fresh behind
    obtain ⟨_, later⟩ := (event.advances behind).behind
    exact ⟨_, frozen_of_advances later behind.within fresh.active
      (Vector.getElem?_eq_getElem behind.within)⟩
  handled := handle_eq_run d

/-- From coming up on, wherever a run of the tracker has got to, its sessions go round. -/
theorem sessions_rotate (d : Device g) (fits : g.Fits d.settings.store.chip.capacity)
    (faultless : ∀ f ∈ d.settings.store.chip.faults, f.count = 0) (events : List Event) :
    Rotates (runEvents (start d) events) := by
  have healthy : d.settings.store.Healthy := ⟨fits, faultless⟩
  have started := (start_started healthy).1.behind healthy
  obtain ⟨_, behind⟩ := (runEvents_advances started events).behind
  exact behind.rotates

/-- An erased chip, a session that is opened by a press, and a reboot. -/
theorem sessions_rotate_erased :
    let g := Bench.Layout.unit.geometry
    let store := Bench.Layout.unitStore
    let d : Device g :=
      { settings := ⟨store, .script {}, 500, .ofBoard []⟩, today := { year := 2024 } }
    g.Fits d.settings.store.chip.capacity ∧ (∀ f ∈ d.settings.store.chip.faults, f.count = 0) ∧
      Rotates (runEvents (start d)
        [.press ⟨functionKey, true⟩, .tick, .reboot (.script {}) 500 [] { year := 2025 }]) := by
  intro g store d
  have fits : g.Fits d.settings.store.chip.capacity := Bench.Layout.unit_fits
  have faultless : ∀ f ∈ d.settings.store.chip.faults, f.count = 0 := Bench.Layout.unit_faultless
  exact ⟨fits, faultless, sessions_rotate d fits faultless _⟩

end Tracker

end Keypad
