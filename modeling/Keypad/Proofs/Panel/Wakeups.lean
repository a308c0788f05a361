import Keypad.Proofs.Panel.Polling

namespace Keypad

namespace Bench

open Panel (WaitStep.point)

namespace Scene

variable {s : Scene}

/-- What a step that belongs to no poll does to the signal, and to a waiter that is not polled. -/
theorem step_signal (s : Scene) {x : SceneStep} (other : x.isStep = false) :
    (s.step x).bench.panel.signal = (if s.signals x then .raised else s.bench.panel.signal) ∧
      (s.step x).bench.panel.wakes =
        (if s.signals x then s.bench.panel.raise.wakes else s.bench.panel.wakes) := by
  cases x with
  | call c =>
    cases callback : c.isCallback with
    | false => simp [step, signals, callback]
    | true =>
      have call := run_call s.bench callback
      simp only [step, signals, callback, if_true, Bool.true_and]
      generalize s.bench.publishes c = published, (c.run s.bench).2.panel = after at call ⊢
      cases call with
      | quiet _ signal wakes kept => exact ⟨signal, wakes⟩
      | signalled _ signal wakes pending => exact ⟨signal, wakes⟩
  | expire key id =>
    have expired :=
      s.bench.panel.expire_expired key id s.bench.clock.toNat s.bench.thresholdMs.toNat
    simp only [step, signals]
    generalize s.bench.panel.expire key id s.bench.clock.toNat s.bench.thresholdMs.toNat = r
      at expired ⊢
    obtain ⟨expiry, after⟩ := r
    cases expired <;> exact ⟨rfl, rfl⟩
  | raise =>
    cases signalling : s.signalling with
    | zero => simp [step, signals, signalling]
    | succ n => simp [step, signals, signalling, Panel.raise]
  | poll =>
    simp only [step, signals]
    cases s.polled <;> exact ⟨rfl, rfl⟩
  | step => simp [SceneStep.isStep] at other
  | drop =>
    simp only [step, signals]
    cases s.polled <;> exact ⟨rfl, rfl⟩

theorem polled_step (s : Scene) {x : SceneStep} (unpolled : x.isPoll = false)
    (other : x.isStep = false) : (s.step x).polled = s.polled := by
  cases x with
  | call c =>
    simp only [step]
    split <;> rfl
  | expire key id =>
    simp only [step]
    split <;> rfl
  | raise =>
    simp only [step]
    split <;> rfl
  | poll => simp [SceneStep.isPoll] at unpolled
  | step => simp [SceneStep.isStep] at other
  | drop =>
    simp only [step]
    split <;> rfl

theorem step_of_unpolled (unpolled : s.polled = none) : s.step .step = s := by
  simp only [step, unpolled]

theorem step_of_polled {point : WaitPoint} (polled : s.polled = some point) :
    s.step .step = s.takeStep point := by
  simp only [step, polled]

/-- While no timer is on its way to the signal, the waiter misses nothing. -/
def Heard (s : Scene) : Prop := s.signalling = 0 → s.bench.panel.Heard s.point

theorem point_takeStep (s : Scene) (point : WaitPoint) :
    (s.takeStep point).point = WaitStep.point (s.bench.panel.waitStep point).1 := by
  unfold takeStep
  generalize s.bench.panel.waitStep point = r
  obtain ⟨_ | _ | _, after⟩ := r <;> rfl

theorem panel_takeStep (s : Scene) (point : WaitPoint) :
    (s.takeStep point).bench.panel = (s.bench.panel.waitStep point).2 := by
  unfold takeStep
  generalize s.bench.panel.waitStep point = r
  obtain ⟨_ | _ | _, after⟩ := r <;> rfl

theorem signalling_takeStep (s : Scene) (point : WaitPoint) :
    (s.takeStep point).signalling = s.signalling := by
  unfold takeStep
  split <;> rfl

theorem Heard.of_call {s' : Scene} {published : Bool} (heard : s.Heard)
    (call : s.bench.panel.Call published s'.bench.panel) (point : s'.point = s.point)
    (signalling : s'.signalling = s.signalling) : s'.Heard := by
  intro settled
  rw [signalling] at settled
  rw [point]
  exact (heard settled).call call

theorem Heard.takeStep {point : WaitPoint} (heard : s.Heard) (polled : s.polled = some point) :
    (s.takeStep point).Heard := by
  intro settled
  rw [signalling_takeStep] at settled
  have before := heard settled
  rw [Scene.point, polled, Option.getD_some] at before
  rw [point_takeStep, panel_takeStep]
  exact before.waited (s.bench.panel.waitStep_waited point)

theorem Heard.step (heard : s.Heard) (x : SceneStep) : (s.step x).Heard := by
  cases x with
  | call c =>
    cases callback : c.isCallback with
    | false => simpa [Scene.step, callback] using heard
    | true =>
      simp only [Scene.step, callback, if_true]
      exact heard.of_call (run_call s.bench callback)
        (by simp only [point, waiter_run s.bench callback]) rfl
  | expire key id =>
    have expired :=
      s.bench.panel.expire_expired key id s.bench.clock.toNat s.bench.thresholdMs.toNat
    simp only [Scene.step]
    generalize s.bench.panel.expire key id s.bench.clock.toNat s.bench.thresholdMs.toNat = r
      at expired ⊢
    obtain ⟨expiry, after⟩ := r
    cases expiry with
    | published => exact fun settled => absurd settled (Nat.succ_ne_zero _)
    | _ => exact heard.of_call (expired.quiet (by simp)) rfl rfl
  | raise =>
    simp only [Scene.step]
    cases s.signalling with
    | zero => exact heard
    | succ n => exact fun _ unraised => absurd rfl unraised
  | poll =>
    simp only [Scene.step]
    cases s.polled with
    | none => exact heard
    | some point => exact heard
  | step =>
    cases polled : s.polled with
    | none => rwa [step_of_unpolled polled]
    | some point =>
      rw [step_of_polled polled]
      exact heard.takeStep polled
  | drop =>
    simp only [Scene.step]
    cases polled : s.polled with
    | some point => exact heard
    | none =>
      -- The new waiter will collect first, so that only the old one's wait for the signal counts.
      intro settled unraised sleeping
      exact heard settled unraised (.inl (sleeping.resolve_right (by simp [point])))

theorem Heard.after (heard : s.Heard) (steps : List SceneStep) : (s.after steps).Heard := by
  induction steps generalizing s with
  | nil => exact heard
  | cons x rest ih => exact ih (heard.step x)

section BetweenPolls

variable {x : SceneStep} {steps : List SceneStep}

theorem isStep_iff : x.isStep = true ↔ x = .step := by
  cases x <;> simp [SceneStep.isStep]

theorem step_between (unpolled : s.polled = none) (no_poll : x.isPoll = false) :
    (s.step x).polled = none ∧
      (s.step x).bench.panel.signal = (if s.signals x then .raised else s.bench.panel.signal) ∧
      (s.step x).bench.panel.wakes =
        (if s.signals x then s.bench.panel.raise.wakes else s.bench.panel.wakes) := by
  cases other : x.isStep with
  | true =>
    obtain rfl := isStep_iff.1 other
    rw [step_of_unpolled unpolled]
    exact ⟨unpolled, rfl, rfl⟩
  | false => exact ⟨(s.polled_step no_poll other).trans unpolled, s.step_signal other⟩

theorem raised_after (unpolled : s.polled = none) (no_poll : ∀ x ∈ steps, x.isPoll = false)
    (raised : s.bench.panel.signal = .raised) :
    (s.after steps).bench.panel.signal = .raised ∧
      (s.after steps).bench.panel.wakes = s.bench.panel.wakes := by
  induction steps generalizing s with
  | nil => exact ⟨raised, rfl⟩
  | cons x rest ih =>
    obtain ⟨unpolled', signal, wakes⟩ := step_between unpolled (no_poll x List.mem_cons_self)
    have still : (s.step x).bench.panel.signal = .raised := by rw [signal, raised, ite_self]
    have same : (s.step x).bench.panel.wakes = s.bench.panel.wakes := by
      simp [wakes, Panel.raise, raised]
    have later := ih unpolled' (fun y member => no_poll y (List.mem_cons_of_mem x member)) still
    exact ⟨later.1, later.2.trans same⟩

/-- Between polls, one who waits for the signal is woken once, when it is first raised. -/
theorem waiting_after (unpolled : s.polled = none) (no_poll : ∀ x ∈ steps, x.isPoll = false)
    (waiting : s.bench.panel.signal = .waiting) :
    (s.after steps).bench.panel.signal = (if s.raises steps = 0 then .waiting else .raised) ∧
      (s.after steps).bench.panel.wakes =
        s.bench.panel.wakes + (if s.raises steps = 0 then 0 else 1) := by
  induction steps generalizing s with
  | nil => exact ⟨waiting, rfl⟩
  | cons x rest ih =>
    obtain ⟨unpolled', signal, wakes⟩ := step_between unpolled (no_poll x List.mem_cons_self)
    have no_poll_rest : ∀ y ∈ rest, y.isPoll = false :=
      fun y member => no_poll y (List.mem_cons_of_mem x member)
    cases raising : s.signals x with
    | true =>
      simp only [raising, if_true] at signal wakes
      have later := raised_after unpolled' no_poll_rest signal
      have woken : s.bench.panel.raise.wakes = s.bench.panel.wakes + 1 := by
        simp [Panel.raise, waiting]
      have some_raise : s.raises (x :: rest) ≠ 0 := by simp [raises, raising]
      rw [if_neg some_raise, if_neg some_raise]
      exact ⟨later.1, later.2.trans (wakes.trans woken)⟩
    | false =>
      simp only [raising, Bool.false_eq_true, if_false] at signal wakes
      have later := ih unpolled' no_poll_rest (signal.trans waiting)
      have same : s.raises (x :: rest) = (s.step x).raises rest := by simp [raises, raising]
      rw [wakes, ← same] at later
      exact later

end BetweenPolls

theorem unpolled_after (unpolled : s.polled = none) {steps : List SceneStep}
    (no_poll : ∀ x ∈ steps, x.isPoll = false) : (s.after steps).polled = none := by
  induction steps generalizing s with
  | nil => exact unpolled
  | cons x rest ih =>
    obtain ⟨unpolled', -⟩ := step_between unpolled (no_poll x List.mem_cons_self)
    exact ih unpolled' fun y member => no_poll y (List.mem_cons_of_mem x member)

/-- The steps that the poll under way can still take, if nobody raises the signal. -/
def bound (s : Scene) : Nat :=
  match s.polled with
  | none => 0
  | some point => s.bench.panel.waitBound point

theorem bound_takeStep {point : WaitPoint} (polled : s.polled = some point)
    (goes_on : (s.takeStep point).polled ≠ none) : (s.takeStep point).bound < s.bound := by
  have before : s.bound = s.bench.panel.waitBound point := by simp only [bound, polled]
  cases taken : s.bench.panel.waitStep point with
  | mk came after =>
    cases came with
    | delivered event => simp [takeStep, taken] at goes_on
    | asleep => simp [takeStep, taken] at goes_on
    | next next =>
      have less := s.bench.panel.waitBound_waitStep point next (by rw [taken])
      have later : (s.takeStep point).bound = after.waitBound next := by
        simp only [takeStep, taken, bound]
      rw [taken] at less
      rw [before, later]
      exact less

theorem bound_step (s : Scene) {x : SceneStep} (no_poll : x.isPoll = false)
    (other : x.isStep = false) : (s.step x).bound ≤ s.bound + 2 * (s.signals x).toNat := by
  have polled := s.polled_step no_poll other
  obtain ⟨signal, -⟩ := s.step_signal other
  unfold bound
  rw [polled]
  cases s.polled with
  | none => exact Nat.zero_le _
  | some point =>
    cases raising : s.signals x with
    | true =>
      simp only [Panel.waitBound, Bool.toNat_true]
      split <;> split <;> split <;> omega
    | false =>
      simp only [raising, Bool.false_eq_true, if_false] at signal
      simp [Panel.waitBound, signal]

/-- A poll ends, whatever comes in between: each raise of the signal lets it go round once more. -/
theorem steps_le {steps : List SceneStep} (no_poll : ∀ x ∈ steps, x.isPoll = false)
    (goes_on : (s.after steps).polled ≠ none) :
    steps.countP SceneStep.isStep + (s.after steps).bound ≤ s.bound + 2 * s.raises steps := by
  induction steps generalizing s with
  | nil => simp [after, raises]
  | cons x rest ih =>
    have no_poll_first := no_poll x List.mem_cons_self
    have no_poll_rest : ∀ y ∈ rest, y.isPoll = false :=
      fun y member => no_poll y (List.mem_cons_of_mem x member)
    have later := ih (s := s.step x) no_poll_rest goes_on
    rw [show s.after (x :: rest) = (s.step x).after rest from rfl, raises]
    cases other : x.isStep with
    | false =>
      have first := s.bound_step no_poll_first other
      rw [List.countP_cons_of_neg (by simp [other])]
      omega
    | true =>
      obtain rfl := isStep_iff.1 other
      cases polled : s.polled with
      | none => exact absurd (unpolled_after polled no_poll) goes_on
      | some point =>
        have between : (s.takeStep point).polled ≠ none := by
          intro unpolled
          rw [← step_of_polled polled] at unpolled
          exact goes_on (unpolled_after unpolled no_poll_rest)
        have less := bound_takeStep polled between
        rw [step_of_polled polled] at later ⊢
        rw [List.countP_cons_of_pos rfl]
        omega

theorem bound_le (s : Scene) : s.bound ≤ 3 := by
  unfold bound
  split
  · exact Nat.zero_le 3
  · unfold Panel.waitBound
    split <;> split <;> decide

def finish (s : Scene) (point : WaitPoint) : Scene :=
  let (event, panel) := s.bench.panel.poll point
  { s with
    bench := { s.bench with panel, waiter := if event.isSome then none else some .listening }
    polled := none }

theorem finish_steps {point : WaitPoint} (polled : s.polled = some point) :
    ∃ n, s.after (List.replicate n .step) = s.finish point := by
  -- On the steps that are left, for a poll can go from listening back to collecting.
  induction bound : s.bound using Nat.strongRecOn generalizing s point with
  | ind k ih =>
    have first := step_of_polled polled
    cases taken : s.bench.panel.waitStep point with
    | mk came panel =>
      cases came with
      | delivered event =>
        refine ⟨1, ?_⟩
        rw [List.replicate_one, after, List.foldl_cons, List.foldl_nil, first]
        simp [takeStep, taken, finish, Panel.poll_of_delivered taken]
      | asleep =>
        refine ⟨1, ?_⟩
        rw [List.replicate_one, after, List.foldl_cons, List.foldl_nil, first]
        simp [takeStep, taken, finish, Panel.poll_of_asleep taken]
      | next next =>
        have between : (s.takeStep point).polled = some next := by simp only [takeStep, taken]
        have less := bound_takeStep polled (by rw [between]; exact Option.some_ne_none next)
        obtain ⟨n, rest⟩ := ih _ (bound ▸ less) between rfl
        refine ⟨n + 1, ?_⟩
        rw [List.replicate_succ, after, List.foldl_cons, first]
        refine rest.trans ?_
        simp [takeStep, taken, finish, Panel.poll_of_next taken]

end Scene

section Wait

variable (b : PanelBench)

theorem Scene.wait_steps {s : Scene} (unpolled : s.polled = none) :
    ∃ n, s.after (.poll :: List.replicate n .step) =
      { s with bench := (PanelCommand.wait.run s.bench).2 } := by
  have begun : s.step .poll =
      { s with bench := { s.bench with waiter := none }, polled := some s.point } := by
    simp only [Scene.step, unpolled]
  have under_way : (s.step .poll).polled = some s.point := by rw [begun]
  obtain ⟨n, rest⟩ := Scene.finish_steps under_way
  refine ⟨n, rest.trans ?_⟩
  have here : s.point = s.bench.waiter.getD .collecting := by simp [Scene.point, unpolled]
  rw [begun, run_wait, ← here]
  simp [Scene.finish, unpolled]

def PanelBench.Heard : Prop := b.panel.Heard (b.waiter.getD .collecting)

variable {b}

theorem PanelBench.Heard.wait (heard : b.Heard) :
    (PanelCommand.wait.run b).2.Heard ∧
      (PanelCommand.wait.run b).1 = waitReply (pendingEvents b.panel.buttons).head? ∧
      pendingEvents (PanelCommand.wait.run b).2.panel.buttons =
        (pendingEvents b.panel.buttons).tail := by
  have collected := Panel.Heard.poll heard
  have later := Panel.Heard.after_poll heard
  simp only [run_wait, PanelBench.Heard]
  refine ⟨?_, ?_, ?_⟩
  · generalize b.panel.poll (b.waiter.getD .collecting) = r at later ⊢
    obtain ⟨_ | event, panel⟩ := r <;> exact later
  · rw [collected.1]
    exact congrArg waitReply (Panel.takeFirst_head b.panel.buttons)
  · rw [collected.2]
    exact Panel.takeFirst_tail b.panel.buttons

theorem PanelBench.Heard.run (heard : b.Heard) (c : PanelCommand) : (c.run b).2.Heard := by
  cases callback : c.isCallback with
  | true =>
    rw [PanelBench.Heard, waiter_run b callback]
    exact Panel.Heard.call heard (run_call b callback)
  | false =>
    cases c with
    | wait => exact heard.wait.1
    | dropWaiter =>
      intro unraised sleeping
      exact heard unraised (.inl (sleeping.resolve_right (by simp [PanelCommand.run])))
    | sleep ms =>
      have only := onlyClock_run b (c := .sleep ms) rfl
      rw [PanelBench.Heard, Panel.Heard, only.waiter, only.signal, only.buttons]
      exact heard
    | _ => simp [PanelCommand.isCallback] at callback

theorem PanelBench.Heard.waits (heard : b.Heard) (n : Nat) :
    (PanelCommand.wait.run (b.after (List.replicate n .wait))).1 =
      waitReply (pendingEvents b.panel.buttons)[n]? := by
  induction n generalizing b with
  | zero =>
    rw [← List.head?_eq_getElem?]
    exact heard.wait.2.1
  | succ n ih =>
    obtain ⟨heard', -, rest⟩ := heard.wait
    have later := ih heard'
    rw [rest, List.getElem?_tail] at later
    exact later

end Wait

structure WaitsWell (s : Scene) : Prop where
  registered :
    s.signalling = 0 → s.bench.panel.signal = .waiting → NonePending s.bench.panel.buttons
  /-- A poll that comes to nothing waits for the signal. -/
  waits :
    ∀ point, (s.bench.panel.poll point).1 = none → (s.bench.panel.poll point).2.signal = .waiting
  woken :
    s.bench.panel.signal = .waiting → s.polled = none →
      ∀ steps, (∀ x ∈ steps, x.isPoll = false) →
        (s.after steps).bench.panel.signal = (if s.raises steps = 0 then .waiting else .raised) ∧
          (s.after steps).bench.panel.wakes =
            s.bench.panel.wakes + (if s.raises steps = 0 then 0 else 1)
  /-- The command is a poll with nothing in between. -/
  whole :
    s.polled = none →
      ∃ n, s.after (.poll :: List.replicate n .step) =
        { s with bench := (PanelCommand.wait.run s.bench).2 }
  answered :
    s.polled = none → s.signalling = 0 ∨ s.bench.waiter = none →
      (PanelCommand.wait.run s.bench).1 = waitReply s.bench.panel.take.1
  lowest : s.bench.panel.take.1 = (pendingEvents s.bench.panel.buttons).head?
  /-- The rest of a poll that something came in between comes to what a collection comes to now. -/
  resumed :
    ∀ point, s.polled = some point →
      (∃ n, s.after (List.replicate n .step) = s.finish point) ∧
        (s.signalling = 0 → (s.bench.panel.poll point).1 = s.bench.panel.take.1)
  caught :
    s.polled = some .listening → ∀ c : PanelCommand, c.isCallback = true →
      s.bench.publishes c = true →
        ((s.step (.call c)).bench.panel.poll .listening).1.isSome = true
  genuine :
    ∀ point event panel, s.bench.panel.waitStep point = (.delivered event, panel) →
      s.bench.panel.take = (some event, panel)
  spurious :
    NonePending s.bench.panel.buttons → ∀ point, (s.bench.panel.poll point).1 = none
  ends :
    ∀ steps, (∀ x ∈ steps, x.isPoll = false) → (s.after steps).polled ≠ none →
      steps.countP SceneStep.isStep ≤ 3 + 2 * s.raises steps
  successive :
    s.polled = none → s.signalling = 0 → ∀ n,
      (PanelCommand.wait.run (s.bench.after (List.replicate n .wait))).1 =
        waitReply (pendingEvents s.bench.panel.buttons)[n]?

theorem Scene.Heard.bench {s : Scene} (heard : s.Heard) (unpolled : s.polled = none)
    (settled : s.signalling = 0) : s.bench.Heard := by
  have here := heard settled
  rwa [Scene.point, unpolled, Option.getD_none] at here

theorem Scene.caught {s : Scene} {c : PanelCommand} (callback : c.isCallback = true)
    (publishes : s.bench.publishes c = true) :
    ((s.step (.call c)).bench.panel.poll .listening).1.isSome = true := by
  have call := run_call s.bench callback
  simp only [Scene.step, callback, if_true]
  rw [publishes] at call
  generalize (c.run s.bench).2.panel = after at call ⊢
  cases call with
  | signalled _ signal wakes pending =>
    have heard : after.Heard .listening := fun unraised => absurd signal unraised
    rw [heard.poll.1, Option.isSome_iff_ne_none]
    exact mt (Panel.takeFirst_none_iff after.buttons).1 pending

theorem Scene.Heard.waitsWell {s : Scene} (heard : s.Heard) : WaitsWell s where
  registered settled waiting := heard settled (by rw [waiting]; decide) (.inl waiting)
  waits point asleep := Panel.poll_waiting asleep
  woken waiting unpolled steps no_poll := Scene.waiting_after unpolled no_poll waiting
  whole unpolled := Scene.wait_steps unpolled
  answered := by
    intro unpolled sure
    rw [run_wait]
    apply congrArg waitReply
    cases sure with
    | inl settled => exact (heard.bench unpolled settled).poll.1
    | inr fresh =>
      rw [fresh]
      exact s.bench.panel.poll_collecting
  lowest := Panel.takeFirst_head s.bench.panel.buttons
  resumed := by
    intro point polled
    refine ⟨Scene.finish_steps polled, ?_⟩
    intro settled
    have here := heard settled
    rw [Scene.point, polled, Option.getD_some] at here
    exact here.poll.1
  caught _ _ callback publishes := Scene.caught callback publishes
  genuine := by
    intro point event panel delivered
    have waited := s.bench.panel.waitStep_waited point
    rw [delivered] at waited
    cases waited with
    | delivered event buttons taken => simp only [Panel.take, taken]
  spurious none_pending point := Panel.poll_none none_pending point
  ends := by
    intro steps no_poll goes_on
    have most := Scene.steps_le no_poll goes_on
    have least := s.bound_le
    omega
  successive unpolled settled n := (heard.bench unpolled settled).waits n

theorem waiter_hears (board : List ButtonConfig) (clock : UInt64) (thresholdMs : UInt32)
    (steps : List SceneStep) :
    WaitsWell
      (({ bench := .ofBoard board clock thresholdMs } : Scene).after steps) := by
  have heard : Scene.Heard { bench := .ofBoard board clock thresholdMs } := by
    intro _ _ _ b member
    obtain ⟨config, -, rfl⟩ := List.mem_map.1 member
    rfl
  exact (heard.after steps).waitsWell

/-- A press that is published between the look at the buttons and the wait for the signal. -/
example :
    let s : Scene :=
      { bench := .ofBoard [{ id := 1, gpio := 5, value := default, color := default }] 1 500 }
    let between := s.after [.call .init, .call (.edge 5), .poll, .step, .expire 0 1]
    between.polled = some .listening ∧ between.bench.panel.signal = .idle ∧
      (between.after [.raise, .step, .step]).polled = none ∧
      (between.after [.step, .raise]).bench.panel.wakes = 1 := by
  decide

end Bench

end Keypad
