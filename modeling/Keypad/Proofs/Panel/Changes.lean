import Keypad.Bench.Panel

namespace Keypad

/-- The presses of a button that a command let begin, handed over, and dropped. -/
structure PressCount where
  accepted : Nat := 0
  delivered : Nat := 0
  discarded : Nat := 0
  deriving DecidableEq, Repr

instance : Add PressCount where
  add a b := ⟨a.accepted + b.accepted, a.delivered + b.delivered, a.discarded + b.discarded⟩

namespace PressCount

@[simp] theorem accepted_add (a b : PressCount) : (a + b).accepted = a.accepted + b.accepted := rfl

@[simp] theorem delivered_add (a b : PressCount) : (a + b).delivered = a.delivered + b.delivered :=
  rfl

@[simp] theorem discarded_add (a b : PressCount) : (a + b).discarded = a.discarded + b.discarded :=
  rfl

end PressCount

namespace Button

def inFlight (b : Button) : Nat := b.pending.toNat + b.debouncing.toNat

def quieted (b : Button) (id : Nat) : Button :=
  { b with pin := b.pin.setInterrupt false, debouncing := true, timer := some id }

/-- The button after an edge for which no timer was left. -/
def givenUp (b : Button) : Button :=
  { b with
    pin := (b.pin.setInterrupt false).setInterrupt true
    debouncing := false
    watchedSince := none
    timer := none }

def published (b : Button) (long : Bool) : Button :=
  { b with
    pin := b.pin.setInterrupt true
    debouncing := false
    pending := true
    longPress := long
    watchedSince := none
    timer := none }

/-- The changes of a button. From outside come other settings and levels; the rest is its cycle. -/
inductive Change (b : Button) : PressCount → Button → Prop where
  | outside (config : ButtonConfig) (pin : Pin) :
      config.id = b.config.id → config.enabled = b.config.enabled →
      pin.interrupt = b.pin.interrupt → Change b {} { b with config, pin }
  | reset (q : TimerQueue) :
      Change b { discarded := (b.debouncing || b.pending).toNat } (b.reset q).1
  | quieted (id : Nat) : b.accepts = true → Change b { accepted := 1 } (b.quieted id)
  | givenUp : b.accepts = true → Change b {} b.givenUp
  | watched (id now : Nat) :
      b.debouncing = true → Change b {} { b with watchedSince := some now, timer := some id }
  | published (long : Bool) : b.debouncing = true → Change b {} (b.published long)
  | collected : b.pending = true → Change b { delivered := 1 } b.collected

inductive Changes : Button → PressCount → Button → Prop where
  | refl (b : Button) : Changes b {} b
  | step {b b' b'' : Button} {count rest : PressCount} :
      b.Change count b' → Changes b' rest b'' → Changes b (count + rest) b''

theorem Change.refl (b : Button) : b.Change {} b := .outside b.config b.pin rfl rfl rfl

theorem edge_ignored {b : Button} (ignored : b.accepts = false) (key : Nat) (q : TimerQueue) :
    b.edge key q = (b, q) := by
  simp [edge, ignored]

theorem edge_started {b : Button} (accepted : b.accepts = true) (key : Nat) {q : TimerQueue}
    (available : q.exhausted = false) :
    b.edge key q = (b.quieted (q.started + 1), (q.start key debounceMs .oneShot).2) := by
  simp [edge, accepted, TimerQueue.start, available, quieted]

theorem edge_refused {b : Button} (accepted : b.accepts = true) (key : Nat) {q : TimerQueue}
    (exhausted : q.exhausted = true) : b.edge key q = (b.givenUp, q.release b.timer) := by
  simp [edge, accepted, TimerQueue.start, exhausted, abort, givenUp]

theorem watch_change {b : Button} (debouncing : b.debouncing = true) (key now : Nat)
    (q : TimerQueue) : b.Change {} (b.watch key now q).2.1 := by
  unfold watch
  cases (q.release b.timer).start key watchMs .periodic with
  | mk id q =>
    cases id with
    | some id => exact .watched id now debouncing
    | none => exact .published false debouncing

theorem expire_stale {b : Button} {id : Nat}
    (stale : ¬ (b.debouncing = true ∧ b.timer = some id)) (key now thresholdMs : Nat)
    (q : TimerQueue) : b.expire key id now thresholdMs q = (.stale, b, q) := by
  have other : ¬ (b.debouncing && b.timer == some id) = true := by simpa using stale
  rw [expire, if_neg other]

section Current

variable {b : Button} {id : Nat} (debouncing : b.debouncing = true) (timer : b.timer = some id)
include debouncing timer

theorem expire_released (low : b.pin.isLow = false) (key now thresholdMs : Nat) (q : TimerQueue) :
    b.expire key id now thresholdMs q = (.published, b.published false, q.cancel id) := by
  cases watched : b.watchedSince <;>
    simp [expire, debouncing, timer, watched, low, settle, published, TimerQueue.release]

theorem expire_watched (unwatched : b.watchedSince = none) (low : b.pin.isLow = true)
    (key now thresholdMs : Nat) {q : TimerQueue} (available : q.exhausted = false) :
    b.expire key id now thresholdMs q =
      (.watched, { b with watchedSince := some now, timer := some (q.started + 1) },
        ((q.cancel id).start key watchMs .periodic).2) := by
  have left : (q.cancel id).exhausted = false := available
  simp [expire, debouncing, timer, unwatched, low, watch, TimerQueue.release, TimerQueue.start,
    left]

/-- Without a timer to watch it by, a held button counts as released. -/
theorem expire_unwatched (unwatched : b.watchedSince = none) (low : b.pin.isLow = true)
    (key now thresholdMs : Nat) {q : TimerQueue} (exhausted : q.exhausted = true) :
    b.expire key id now thresholdMs q = (.published, b.published false, q.cancel id) := by
  have left : (q.cancel id).exhausted = true := exhausted
  simp [expire, debouncing, timer, unwatched, low, watch, TimerQueue.release, TimerQueue.start,
    left, settle, published]

theorem expire_held {since : Nat} (watched : b.watchedSince = some since)
    (low : b.pin.isLow = true) (key now thresholdMs : Nat) (q : TimerQueue) :
    b.expire key id now thresholdMs q =
      if isLong since now thresholdMs then (.published, b.published true, q.cancel id)
      else (.held, b, q) := by
  simp [expire, debouncing, timer, watched, low, settle, published, TimerQueue.release]

end Current

theorem expire_change (b : Button) (key id now thresholdMs : Nat) (q : TimerQueue) :
    b.Change {} (b.expire key id now thresholdMs q).2.1 := by
  unfold expire
  by_cases current : (b.debouncing && b.timer == some id) = true
  · have debouncing : b.debouncing = true := (Bool.and_eq_true .. ▸ current).1
    rw [if_pos current]
    cases b.watchedSince with
    | none =>
      simp only
      split
      · exact watch_change debouncing key now q
      · exact .published false debouncing
    | some since =>
      simp only
      split
      · exact .published false debouncing
      · split
        · exact .published true debouncing
        · exact .refl b
  · rw [if_neg current]
    exact .refl b

end Button

namespace Panel

theorem resetAll_fst (q : TimerQueue) (bs : List Button) :
    (resetAll q bs).1 = bs.map fun b => (b.reset q).1 := by
  induction bs generalizing q with
  | nil => rfl
  | cons b rest ih =>
    simp only [resetAll, List.map_cons, ih]
    rfl

theorem buttons_init (p : Panel) :
    p.init.buttons = p.buttons.map fun b => (b.reset p.timers).1 :=
  resetAll_fst p.timers p.buttons

/-- What an edge does to the panel. It is ignored, or it concerns the first button of its pin. -/
inductive Edge (p : Panel) (gpio : UInt8) : Panel → Prop where
  | ignored : Edge p gpio p
  | started (place : Nat) (b : Button) :
      p.buttons.findIdx? (·.config.gpio == gpio) = some place → p.buttons[place]? = some b →
      b.accepts = true → p.timers.exhausted = false →
      Edge p gpio
        { p with
          buttons := p.buttons.set place (b.quieted (p.timers.started + 1))
          timers := (p.timers.start place debounceMs .oneShot).2 }
  | refused (place : Nat) (b : Button) :
      p.buttons.findIdx? (·.config.gpio == gpio) = some place → p.buttons[place]? = some b →
      b.accepts = true → p.timers.exhausted = true →
      Edge p gpio
        { p with
          buttons := p.buttons.set place b.givenUp
          timers := p.timers.release b.timer }

theorem edge_eq {p : Panel} {gpio : UInt8} {place : Nat} {b : Button}
    (wired : p.buttons.findIdx? (·.config.gpio == gpio) = some place)
    (found : p.buttons[place]? = some b) :
    p.edge gpio =
      { p with
        buttons := p.buttons.set place (b.edge place p.timers).1
        timers := (b.edge place p.timers).2 } := by
  simp only [edge, wired, found]

theorem edge_edge (p : Panel) (gpio : UInt8) : Edge p gpio (p.edge gpio) := by
  cases wired : p.buttons.findIdx? (·.config.gpio == gpio) with
  | none =>
    simp only [edge, wired]
    exact .ignored
  | some place =>
    have within := (List.findIdx?_eq_some_iff_getElem.1 wired).1
    have found : p.buttons[place]? = some p.buttons[place] := List.getElem?_eq_getElem within
    rw [edge_eq wired found]
    cases accepted : p.buttons[place].accepts with
    | false =>
      rw [Button.edge_ignored accepted, List.set_getElem_self within]
      exact .ignored
    | true =>
      cases exhausted : p.timers.exhausted with
      | false =>
        rw [Button.edge_started accepted place exhausted]
        exact .started place _ wired found accepted exhausted
      | true =>
        rw [Button.edge_refused accepted place exhausted]
        exact .refused place _ wired found accepted exhausted

/-- What a timer's running out does to the panel, by what the button's pin and its time under watch
say. Only the timer that the button holds counts. -/
inductive Expired (p : Panel) (key id now thresholdMs : Nat) : Expiry → Panel → Prop where
  | stale :
      (∀ b, p.buttons[key]? = some b → b.debouncing = true → b.timer ≠ some id) →
      Expired p key id now thresholdMs .stale p
  | watched (b : Button) :
      p.buttons[key]? = some b → b.debouncing = true → b.timer = some id →
      b.watchedSince = none → b.pin.isLow = true → p.timers.exhausted = false →
      Expired p key id now thresholdMs .watched
        { p with
          buttons := p.buttons.set key
            { b with watchedSince := some now, timer := some (p.timers.started + 1) }
          timers := ((p.timers.cancel id).start key watchMs .periodic).2 }
  | unwatched (b : Button) :
      p.buttons[key]? = some b → b.debouncing = true → b.timer = some id →
      b.watchedSince = none → b.pin.isLow = true → p.timers.exhausted = true →
      Expired p key id now thresholdMs .published
        { p with
          buttons := p.buttons.set key (b.published false)
          timers := p.timers.cancel id }
  | released (b : Button) :
      p.buttons[key]? = some b → b.debouncing = true → b.timer = some id →
      b.pin.isLow = false →
      Expired p key id now thresholdMs .published
        { p with
          buttons := p.buttons.set key (b.published false)
          timers := p.timers.cancel id }
  | held (b : Button) (since : Nat) :
      p.buttons[key]? = some b → b.debouncing = true → b.timer = some id →
      b.watchedSince = some since → b.pin.isLow = true →
      Button.isLong since now thresholdMs = false →
      Expired p key id now thresholdMs .held p
  | long (b : Button) (since : Nat) :
      p.buttons[key]? = some b → b.debouncing = true → b.timer = some id →
      b.watchedSince = some since → b.pin.isLow = true →
      Button.isLong since now thresholdMs = true →
      Expired p key id now thresholdMs .published
        { p with
          buttons := p.buttons.set key (b.published true)
          timers := p.timers.cancel id }

theorem expire_eq {p : Panel} {key : Nat} {b : Button} (found : p.buttons[key]? = some b)
    (id now thresholdMs : Nat) :
    p.expire key id now thresholdMs =
      ((b.expire key id now thresholdMs p.timers).1,
        { p with
          buttons := p.buttons.set key (b.expire key id now thresholdMs p.timers).2.1
          timers := (b.expire key id now thresholdMs p.timers).2.2 }) := by
  simp only [expire, found]

theorem expire_expired (p : Panel) (key id now thresholdMs : Nat) :
    Expired p key id now thresholdMs (p.expire key id now thresholdMs).1
      (p.expire key id now thresholdMs).2 := by
  cases found : p.buttons[key]? with
  | none =>
    simp only [expire, found]
    exact .stale (by simp [found])
  | some b =>
    obtain ⟨within, rfl⟩ := List.getElem?_eq_some_iff.1 found
    rw [expire_eq found]
    by_cases current : p.buttons[key].debouncing = true ∧ p.buttons[key].timer = some id
    · obtain ⟨debouncing, timer⟩ := current
      cases low : p.buttons[key].pin.isLow with
      | false =>
        rw [Button.expire_released debouncing timer low]
        exact .released _ found debouncing timer low
      | true =>
        cases watched : p.buttons[key].watchedSince with
        | none =>
          cases exhausted : p.timers.exhausted with
          | false =>
            rw [Button.expire_watched debouncing timer watched low key now thresholdMs exhausted]
            exact .watched _ found debouncing timer watched low exhausted
          | true =>
            rw [Button.expire_unwatched debouncing timer watched low key now thresholdMs exhausted]
            exact .unwatched _ found debouncing timer watched low exhausted
        | some since =>
          rw [Button.expire_held debouncing timer watched low]
          cases long : Button.isLong since now thresholdMs with
          | false =>
            simp only [Bool.false_eq_true, if_false, List.set_getElem_self within]
            exact .held _ since found debouncing timer watched low long
          | true => exact .long _ since found debouncing timer watched low long
    · rw [Button.expire_stale current, List.set_getElem_self within]
      refine .stale ?_
      intro b there debouncing timer
      obtain rfl := Option.some.inj (found.symm.trans there)
      exact current ⟨debouncing, timer⟩

theorem buttons_timer (p : Panel) (key id now thresholdMs : Nat) :
    (p.timer key id now thresholdMs).2.buttons =
      (p.expire key id now thresholdMs).2.buttons := by
  unfold timer
  split <;> simp_all [raise]

theorem timers_timer (p : Panel) (key id now thresholdMs : Nat) :
    (p.timer key id now thresholdMs).2.timers = (p.expire key id now thresholdMs).2.timers := by
  unfold timer
  split <;> simp_all [raise]

theorem timer_goesOn_iff (p : Panel) (key id now thresholdMs : Nat) :
    (p.timer key id now thresholdMs).1 = true ↔ (p.expire key id now thresholdMs).1 = .held := by
  unfold timer
  split <;> simp_all

theorem timer_stale {p : Panel} {key id now thresholdMs : Nat}
    (stale : p.expire key id now thresholdMs = (.stale, p)) :
    p.timer key id now thresholdMs = (false, p) := by
  simp only [timer, stale]

/-- Settings that are changed by key change those of the first button of the key. -/
theorem configure_eq_modify (f : ButtonConfig → ButtonConfig) (key : UInt8) (bs : List Button) :
    configure f key bs =
      bs.modify (bs.findIdx (·.config.id == key)) fun b => { b with config := f b.config } := by
  induction bs with
  | nil => rfl
  | cons b rest ih =>
    rw [configure]
    by_cases found : b.config.id = key
    · simp [found, List.findIdx_cons]
    · have other : (b.config.id == key) = false := by simpa using found
      rw [if_neg found, List.findIdx_cons, other, cond_false, List.modify_succ_cons, ih]

inductive Collection (bs : List Button) : Option ButtonEvent → List Button → Prop where
  | empty : Collection bs none bs
  | first (place : Nat) (b : Button) :
      bs.findIdx? (·.pending) = some place → bs[place]? = some b →
      Collection bs (some b.event) (bs.modify place Button.collected)

theorem takeFirst_collection (bs : List Button) :
    Collection bs (takeFirst bs).1 (takeFirst bs).2 := by
  induction bs with
  | nil => exact .empty
  | cons b rest ih =>
    by_cases pending : b.pending = true
    · simp only [takeFirst, if_pos pending]
      exact .first 0 b (by simp [List.findIdx?_cons, pending]) rfl
    · simp only [takeFirst, if_neg pending]
      generalize takeFirst rest = taken at ih ⊢
      obtain ⟨event, after⟩ := taken
      cases ih with
      | empty => exact .empty
      | first place first found at_place =>
        exact .first (place + 1) first (by simp [List.findIdx?_cons, pending, found]) at_place

theorem take_collection (p : Panel) : Collection p.buttons p.take.1 p.take.2.buttons :=
  takeFirst_collection p.buttons

theorem waitStep_collection (p : Panel) (point : WaitPoint) :
    match p.waitStep point with
    | (.delivered event, after) => Collection p.buttons (some event) after.buttons
    | (_, after) => after.buttons = p.buttons := by
  cases point with
  | collecting =>
    have collection := takeFirst_collection p.buttons
    simp only [waitStep, take]
    generalize takeFirst p.buttons = taken at collection ⊢
    obtain ⟨event, buttons⟩ := taken
    cases collection with
    | empty => rfl
    | first place b found at_place => exact .first place b found at_place
  | listening =>
    simp only [waitStep, listen]
    by_cases raised : p.signal = .raised
    · rw [if_pos raised]
    · rw [if_neg raised]

theorem poll_collection (p : Panel) (point : WaitPoint) :
    Collection p.buttons (p.poll point).1 (p.poll point).2.buttons := by
  fun_induction Panel.poll p point with
  | case1 p point event after delivered =>
    have collection := waitStep_collection p point
    rw [delivered] at collection
    exact collection
  | case2 p point after asleep =>
    have kept := waitStep_collection p point
    rw [asleep] at kept
    exact kept ▸ .empty
  | case3 p point next after goesOn ih =>
    have kept := waitStep_collection p point
    rw [goesOn] at kept
    exact kept ▸ ih

end Panel

end Keypad
