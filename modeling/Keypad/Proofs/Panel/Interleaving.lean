import Keypad.Proofs.Panel.Commands

/-! A waiter among interrupts. A poll is taken apart into the steps of the waiter, and a timer's
running out into the press that it publishes and the signal that it raises afterwards, so that
anything can come between any two of them. -/
namespace Keypad

def NonePending (bs : List Button) : Prop := ∀ b ∈ bs, b.pending = false

theorem NonePending.set {bs : List Button} (none_pending : NonePending bs) (place : Nat)
    {b : Button} (idle : b.pending = false) : NonePending (bs.set place b) := by
  intro c member
  obtain old | rfl := List.mem_or_eq_of_mem_set member
  · exact none_pending c old
  · exact idle

theorem NonePending.modify {bs : List Button} (none_pending : NonePending bs) (place : Nat)
    {f : Button → Button} (same : ∀ b, (f b).pending = b.pending) :
    NonePending (bs.modify place f) := by
  intro c member
  obtain ⟨key, found⟩ := List.getElem?_of_mem member
  rw [List.getElem?_modify] at found
  obtain ⟨b, there, rfl⟩ := Option.map_eq_some_iff.1 found
  have idle := none_pending b (List.mem_of_getElem? there)
  split
  · rw [same, idle]
  · exact idle

namespace Panel

theorem takeFirst_none_iff (bs : List Button) : (takeFirst bs).1 = none ↔ NonePending bs := by
  induction bs with
  | nil => simp [takeFirst, NonePending]
  | cons b rest ih =>
    cases pending : b.pending with
    | true => simp [takeFirst, pending, NonePending]
    | false =>
      simp only [NonePending] at ih
      simp [takeFirst, pending, NonePending, ih]

theorem takeFirst_of_nonePending {bs : List Button} (none_pending : NonePending bs) :
    takeFirst bs = (none, bs) := by
  have nothing := (takeFirst_none_iff bs).2 none_pending
  have collection := takeFirst_collection bs
  generalize takeFirst bs = taken at nothing collection
  obtain ⟨event, after⟩ := taken
  obtain rfl : event = none := nothing
  cases collection with
  | empty => rfl

/-- What a call does to the signal, by whether it publishes a press. A call that does not makes no
press pending either. -/
inductive Call (p : Panel) : Bool → Panel → Prop where
  | quiet (p' : Panel) :
      p'.signal = p.signal → p'.wakes = p.wakes →
      (NonePending p.buttons → NonePending p'.buttons) → Call p false p'
  | signalled (p' : Panel) :
      p'.signal = .raised → p'.wakes = p.raise.wakes → ¬ NonePending p'.buttons → Call p true p'

theorem Call.refl (p : Panel) : p.Call false p := .quiet p rfl rfl id

theorem Call.timers {p p' : Panel} {published : Bool} (call : p.Call published p')
    (q : TimerQueue) : p.Call published { p' with timers := q } := by
  cases call with
  | quiet _ signal wakes kept => exact .quiet _ signal wakes kept
  | signalled _ signal wakes pending => exact .signalled _ signal wakes pending

theorem not_nonePending_set {bs : List Button} {place : Nat} {b c : Button}
    (found : bs[place]? = some c) (pending : b.pending = true) :
    ¬ NonePending (bs.set place b) := by
  intro none_pending
  obtain ⟨within, -⟩ := List.getElem?_eq_some_iff.1 found
  have idle := none_pending b (List.mem_set within b)
  exact absurd (pending.symm.trans idle) (by decide)

/-- Only a timer that publishes a press makes one pending. -/
theorem Expired.quiet {p after : Panel} {key id now thresholdMs : Nat} {expiry : Expiry}
    (expired : Expired p key id now thresholdMs expiry after) (unpublished : expiry ≠ .published) :
    p.Call false after := by
  cases expired with
  | stale stale => exact .refl p
  | held b since found debouncing timer watched low short => exact .refl p
  | watched b found debouncing timer unwatched low available =>
    refine .quiet _ rfl rfl ?_
    intro none_pending
    exact none_pending.set key (none_pending b (List.mem_of_getElem? found))
  | _ => exact absurd rfl unpublished

theorem timer_call (p : Panel) (key id now thresholdMs : Nat) :
    p.Call (decide ((p.expire key id now thresholdMs).1 = .published))
      (p.timer key id now thresholdMs).2 := by
  have expired := p.expire_expired key id now thresholdMs
  unfold timer
  generalize p.expire key id now thresholdMs = r at expired ⊢
  obtain ⟨expiry, after⟩ := r
  cases expiry with
  | published =>
    -- `expire` itself leaves the signal alone, so that raising it wakes whom it would have woken.
    cases expired with
    | unwatched b found => exact .signalled _ rfl rfl (not_nonePending_set found rfl)
    | released b found => exact .signalled _ rfl rfl (not_nonePending_set found rfl)
    | long b since found => exact .signalled _ rfl rfl (not_nonePending_set found rfl)
  | _ => exact expired.quiet (by simp)

theorem edge_call (p : Panel) (gpio : UInt8) : p.Call false (p.edge gpio) := by
  have edge := p.edge_edge gpio
  generalize p.edge gpio = after at edge ⊢
  cases edge with
  | ignored => exact .refl p
  | started place b wired found accepted available =>
    refine .quiet _ rfl rfl ?_
    intro none_pending
    exact none_pending.set place (none_pending b (List.mem_of_getElem? found))
  | refused place b wired found accepted exhausted =>
    refine .quiet _ rfl rfl ?_
    intro none_pending
    exact none_pending.set place (none_pending b (List.mem_of_getElem? found))

theorem init_call (p : Panel) : p.Call false p.init := by
  refine .quiet _ rfl rfl ?_
  intro _ b member
  rw [buttons_init] at member
  obtain ⟨before, -, rfl⟩ := List.mem_map.1 member
  rfl

theorem take_call (p : Panel) : p.Call false p.take.2 := by
  refine .quiet _ rfl rfl ?_
  intro none_pending
  simp only [take, takeFirst_of_nonePending none_pending]
  exact none_pending

theorem configure_call (p : Panel) (f : ButtonConfig → ButtonConfig) (key : UInt8) :
    p.Call false { p with buttons := configure f key p.buttons } := by
  refine .quiet _ rfl rfl ?_
  intro none_pending
  simp only [configure_eq_modify]
  exact none_pending.modify _ fun _ => rfl

theorem changePin_call (p : Panel) (place : Nat) (f : Pin → Pin) :
    p.Call false (p.changePin place f) := by
  refine .quiet _ rfl rfl ?_
  intro none_pending
  exact none_pending.modify place fun _ => rfl

end Panel

namespace Bench

/-- Whether a command is one that interrupts and other callers make, with no part in the waiting. -/
def PanelCommand.isCallback : PanelCommand → Bool
  | .wait | .dropWaiter | .sleep _ => false
  | _ => true

def PanelBench.publishes (b : PanelBench) : PanelCommand → Bool
  | .timer key id =>
    decide ((b.panel.expire key id b.clock.toNat b.thresholdMs.toNat).1 = .published)
  | .fire key =>
    match b.panel.timers.liveFor? key with
    | none => false
    | some t =>
      decide ((b.panel.expire key t.id b.clock.toNat b.thresholdMs.toNat).1 = .published)
  | _ => false

theorem fire_call (b : PanelBench) (key : Nat) :
    b.panel.Call (b.publishes (.fire key)) (b.fire key).2.panel := by
  cases live : b.panel.timers.liveFor? key with
  | none =>
    simp only [PanelBench.publishes, PanelBench.fire, live]
    exact .refl b.panel
  | some t =>
    have call := b.panel.timer_call key t.id b.clock.toNat b.thresholdMs.toNat
    rw [fire_panel live]
    simp only [PanelBench.publishes, live]
    split
    · exact call.timers _
    · exact call

theorem run_call (b : PanelBench) {c : PanelCommand} (callback : c.isCallback = true) :
    b.panel.Call (b.publishes c) (c.run b).2.panel := by
  cases c with
  | init => exact b.panel.init_call
  | setDown place down => exact b.panel.changePin_call place fun p => { p with isDown := down }
  | setFailing place failing => exact b.panel.changePin_call place fun p => { p with failing }
  | edge gpio => exact b.panel.edge_call gpio
  | timer key id => exact b.panel.timer_call key id b.clock.toNat b.thresholdMs.toNat
  | fire key => exact fire_call b key
  | retire id => exact .quiet _ rfl rfl fun none_pending => none_pending
  | exhaust exhausted => exact .quiet _ rfl rfl fun none_pending => none_pending
  | advance | setClock =>
    rw [PanelCommand.run, panel_setClock]
    exact .refl b.panel
  | take => exact b.panel.take_call
  | setValue key value => exact b.panel.configure_call (fun c => { c with value }) key
  | setColor key color => exact b.panel.configure_call (fun c => { c with color }) key
  | wait | dropWaiter | sleep ms => simp [PanelCommand.isCallback] at callback
  | _ => exact .refl b.panel

theorem waiter_run (b : PanelBench) {c : PanelCommand} (callback : c.isCallback = true) :
    (c.run b).2.waiter = b.waiter := by
  cases c with
  | fire key =>
    simp only [PanelCommand.run, PanelBench.fire]
    cases b.panel.timers.liveFor? key <;> rfl
  | advance | setClock => exact (onlyClock_run b rfl).waiter
  | wait | dropWaiter | sleep ms => simp [PanelCommand.isCallback] at callback
  | _ => rfl

/-- A bench in the middle of things. `polled` is where the poll under way goes on, if there is one;
`signalling` counts the timers that have published a press and not yet raised the signal. -/
structure Scene where
  bench : PanelBench
  polled : Option WaitPoint := none
  signalling : Nat := 0

inductive SceneStep where
  /-- A call from outside the waiter, from its beginning to its end. -/
  | call (c : PanelCommand)
  /-- A timer runs out, up to the end of its critical section. -/
  | expire (key id : Nat)
  /-- One of the timers that published a press raises the signal. -/
  | raise
  /-- A poll begins, of a new waiter if there is none. -/
  | poll
  /-- The poll under way takes its next step. -/
  | step
  | drop

def SceneStep.isPoll : SceneStep → Bool
  | .poll => true
  | _ => false

def SceneStep.isStep : SceneStep → Bool
  | .step => true
  | _ => false

namespace Scene

def point (s : Scene) : WaitPoint := s.polled.getD (s.bench.waiter.getD .collecting)

def takeStep (s : Scene) (point : WaitPoint) : Scene :=
  match s.bench.panel.waitStep point with
  | (.delivered _, panel) =>
    { s with bench := { s.bench with panel, waiter := none }, polled := none }
  | (.asleep, panel) =>
    { s with bench := { s.bench with panel, waiter := some .listening }, polled := none }
  | (.next next, panel) => { s with bench := { s.bench with panel }, polled := some next }

/-- The scene after a step. A step that cannot be taken leaves it as it is. -/
def step (s : Scene) : SceneStep → Scene
  | .call c => if c.isCallback then { s with bench := (c.run s.bench).2 } else s
  | .expire key id =>
    match s.bench.panel.expire key id s.bench.clock.toNat s.bench.thresholdMs.toNat with
    | (.published, panel) =>
      { s with bench := { s.bench with panel }, signalling := s.signalling + 1 }
    | (_, panel) => { s with bench := { s.bench with panel } }
  | .raise =>
    match s.signalling with
    | 0 => s
    | n + 1 => { s with bench := { s.bench with panel := s.bench.panel.raise }, signalling := n }
  | .poll =>
    match s.polled with
    | none => { s with bench := { s.bench with waiter := none }, polled := some s.point }
    | some _ => s
  | .step =>
    match s.polled with
    | none => s
    | some point => s.takeStep point
  | .drop =>
    match s.polled with
    | none => { s with bench := { s.bench with waiter := none } }
    | some _ => s

def after (s : Scene) (steps : List SceneStep) : Scene := steps.foldl step s

def signals (s : Scene) : SceneStep → Bool
  | .call c => c.isCallback && s.bench.publishes c
  | .raise => s.signalling != 0
  | _ => false

def raises (s : Scene) : List SceneStep → Nat
  | [] => 0
  | x :: rest => (s.signals x).toNat + (s.step x).raises rest

end Scene

end Bench

end Keypad
