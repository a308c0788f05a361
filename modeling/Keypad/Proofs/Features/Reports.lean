import Keypad.Bench.Layouts
import Keypad.Proofs.Features.Turns
import Keypad.Proofs.Keys.Agreement
import Keypad.Proofs.Panel.Interleaving

/-! What the host hears of the clipboard. Each report is of one held key or releases the one before,
and the clipboard remembers which it was. Presses are passed over, heard or not. -/
namespace Keypad

namespace Panel

theorem map_takeFirst {α : Type} {f : Button → α} (same : ∀ b : Button, f b.collected = f b)
    (bs : List Button) : (takeFirst bs).2.map f = bs.map f := by
  induction bs with
  | nil => rfl
  | cons b rest ih =>
    by_cases pending : b.pending = true
    · simp only [takeFirst, if_pos pending, List.map_cons, same]
    · simp only [takeFirst, if_neg pending, List.map_cons, ih]

/-- What a button says whatever it is in its cycle: whether it is held, and what it sends. -/
def level (b : Button) : Bool × KeyValue := (b.isHeld, b.config.value)

theorem pressedKey_eq (p : Panel) :
    p.pressedKey =
      (p.buttons.map level).findSome? fun l => if l.1 then l.2.keyCode? else none := by
  rw [List.findSome?_map]
  rfl

theorem modifierFlags_eq (p : Panel) :
    p.modifierFlags =
      (p.buttons.map level).foldl
        (fun flags l => if l.1 then flags ||| l.2.modifierFlags else flags) 0 := by
  rw [List.foldl_map]
  rfl

theorem level_take (p : Panel) : p.take.2.buttons.map level = p.buttons.map level :=
  map_takeFirst (fun _ => rfl) p.buttons

theorem pendingCount_of_take_none {p : Panel} (taken : p.take.1 = none) :
    p.take.2.pendingCount = 0 := by
  have none_pending := (takeFirst_none_iff p.buttons).1 taken
  simp only [take, takeFirst_of_nonePending none_pending, pendingCount, List.countP_eq_zero]
  exact fun b member => by simp [none_pending b member]

theorem pressedKey_ne_zero (p : Panel) : p.pressedKey ≠ some 0 := by
  intro pressed
  obtain ⟨b, -, sends⟩ := List.exists_of_findSome?_eq_some pressed
  split at sends
  · cases value : b.config.value with
    | modifier flags => simp [value, KeyValue.keyCode?] at sends
    | key code =>
      simp only [value, KeyValue.keyCode?] at sends
      split at sends
      · contradiction
      · next sent => exact sent (Option.some.inj sends)
  · contradiction

end Panel

namespace Input

/-- Zero is no key code: whoever is asked for the held key does not name it. -/
def Coded (i : Input) : Prop := i.pressedKey ≠ some 0

theorem coded_panel (p : Panel) : (panel p).Coded := p.pressedKey_ne_zero

theorem Coded.setValue {i : Input} (coded : i.Coded) (key : UInt8) (value : KeyValue) :
    (i.setValue key value).Coded := by
  cases i with
  | script s => exact coded
  | panel p => exact coded_panel _

theorem Coded.setColor {i : Input} (coded : i.Coded) (key : UInt8) (color : Color) :
    (i.setColor key color).Coded := by
  cases i with
  | script s => exact coded
  | panel p => exact coded_panel _

/-- What is held does not depend on the presses that wait. -/
theorem held_take (i : Input) :
    i.take.2.pressedKey = i.pressedKey ∧ i.take.2.modifierFlags = i.modifierFlags := by
  cases i with
  | script s =>
    obtain ⟨_ | ⟨event, rest⟩, pressed, modifiers, values, colors⟩ := s
    · exact ⟨rfl, rfl⟩
    · exact ⟨rfl, rfl⟩
  | panel p =>
    constructor
    · show p.take.2.pressedKey = p.pressedKey
      rw [Panel.pressedKey_eq, p.level_take, ← Panel.pressedKey_eq]
    · show p.take.2.modifierFlags = p.modifierFlags
      rw [Panel.modifierFlags_eq, p.level_take, ← Panel.modifierFlags_eq]

theorem held_drain (i : Input) :
    i.drain.2.pressedKey = i.pressedKey ∧ i.drain.2.modifierFlags = i.modifierFlags := by
  fun_induction drain i with
  | case1 i after taken =>
    have kept := i.held_take
    rwa [taken] at kept
  | case2 i event rest taken events after drained ih =>
    have kept := i.held_take
    rw [taken] at kept
    rw [drained] at ih
    exact ⟨ih.1.trans kept.1, ih.2.trans kept.2⟩

theorem pendingCount_of_take_none {i : Input} (taken : i.take.1 = none) :
    i.take.2.pendingCount = 0 := by
  cases i with
  | script s =>
    cases queued : s.events with
    | nil => simp [take, Script.take, queued, pendingCount]
    | cons event rest => simp [take, Script.take, queued] at taken
  | panel p => exact Panel.pendingCount_of_take_none taken

theorem pendingCount_drain (i : Input) : i.drain.2.pendingCount = 0 := by
  fun_induction drain i with
  | case1 i after taken =>
    have emptied := pendingCount_of_take_none (i := i) (by rw [taken])
    rwa [taken] at emptied
  | case2 i event rest taken events after drained ih => rwa [drained] at ih

end Input

namespace Setting

variable {g : Geometry} {k : KeySettings g}

theorem input_run (k : KeySettings g) (s : Setting) :
    (s.run k).2.input = k.input ∨ (s.run k).2.input = s.tell k.input := by
  by_cases concerns : s.Concerns k.table
  · have kept := KeySettings.snd_keep { k with longPressMs := s.threshold k.longPressMs }
      (s.table k.table)
    rw [run_eq concerns]
    generalize KeySettings.keep _ _ = r at kept ⊢
    obtain ⟨_ | _, after⟩ := r
    · simp only at kept
      rw [kept]
      exact .inl rfl
    · simp only at kept
      rw [kept]
      exact .inr rfl
  · rw [run_refused concerns]
    exact .inl rfl

theorem coded_run (coded : k.input.Coded) (s : Setting) : (s.run k).2.input.Coded := by
  rcases s.input_run k with same | told
  · rwa [same]
  · rw [told]
    cases s with
    | value key v => exact coded.setValue key v
    | color key c => exact coded.setColor key c
    | longPress ms => exact coded

end Setting

namespace Report

def carriesKey (r : Report) : Bool := r.codes.any (· != 0)

@[simp] theorem carriesKey_release : release.carriesKey = false := by simp [carriesKey, release]

@[simp] theorem carriesKey_held {code : UInt8} (coded : code ≠ 0) (modifiers : UInt8) :
    (held code modifiers).carriesKey = true := by
  simp [carriesKey, held, coded]

/-- Reports as a keyboard sends them, newest first: each is of one held key or a release, and a
release follows the report of a key. -/
structure WellFormed (reports : List Report) : Prop where
  known : ∀ r ∈ reports, r = release ∨ ∃ code modifiers, code ≠ 0 ∧ r = held code modifiers
  released : ∀ later earlier, reports = later ++ release :: earlier →
    ∃ r before, earlier = r :: before ∧ r.carriesKey = true

namespace WellFormed

variable {reports : List Report}

theorem nil : WellFormed [] where
  known _ member := absurd member List.not_mem_nil
  released later earlier split := absurd split (by simp)

theorem held (formed : WellFormed reports) {code : UInt8} (coded : code ≠ 0) (modifiers : UInt8) :
    WellFormed (.held code modifiers :: reports) where
  known r member := by
    cases List.mem_cons.1 member with
    | inl first => exact .inr ⟨code, modifiers, coded, first⟩
    | inr rest => exact formed.known r rest
  released later earlier split := by
    cases later with
    | nil =>
      have carries := carriesKey_held coded modifiers
      rw [(List.cons.inj split).1, carriesKey_release] at carries
      contradiction
    | cons first later => exact formed.released later earlier (List.cons.inj split).2

theorem release (formed : WellFormed reports) {r : Report} (last : reports.head? = some r)
    (carries : r.carriesKey = true) : WellFormed (.release :: reports) where
  known r member := by
    cases List.mem_cons.1 member with
    | inl first => exact .inl first
    | inr rest => exact formed.known r rest
  released later earlier split := by
    cases later with
    | nil =>
      obtain ⟨before, rfl⟩ := List.head?_eq_some_iff.1 last
      exact ⟨r, before, (List.cons.inj split).2.symm, carries⟩
    | cons first later => exact formed.released later earlier (List.cons.inj split).2

theorem eq_release (formed : WellFormed reports) {r : Report} (last : reports.head? = some r)
    (empty : r.carriesKey ≠ true) : r = .release := by
  rcases formed.known r (List.mem_of_head? last) with release | ⟨code, modifiers, coded, held⟩
  · exact release
  · rw [held] at empty
    exact absurd (carriesKey_held coded modifiers) empty

end WellFormed

end Report

namespace Clipboard

variable {g : Geometry} {d : Device g}

inductive Event where
  /-- Presses come in, keys go down and up, and the host comes and goes. -/
  | outside (input : Input) (ready : Bool)
  | start
  | handle
  | stop

def Event.run (d : Device g) : Event → Device g
  | .outside input ready => { d with settings.input := input, host.ready := ready }
  | .start => Clipboard.start d
  | .handle => Clipboard.handle d
  | .stop => Clipboard.stop d

def Event.Coded : Event → Prop
  | .outside input _ => input.Coded
  | _ => True

def run (d : Device g) (events : List Event) : Device g := events.foldl Event.run d

structure Tells (d : Device g) : Prop where
  formed : Report.WellFormed d.host.reports
  reported : d.keyReported = true ↔ ∃ r, d.host.reports.head? = some r ∧ r.carriesKey = true

theorem Tells.send (tells : Tells d) {code : Option UInt8} (coded : code ≠ some 0)
    (modifiers : UInt8) : Tells (send d code modifiers) := by
  unfold Clipboard.send
  split
  · cases code with
    | some code =>
      have nonzero : code ≠ 0 := fun zero => coded (congrArg some zero)
      have carries := Report.carriesKey_held nonzero modifiers
      exact ⟨tells.formed.held nonzero modifiers, by simp [Device.report, carries]⟩
    | none =>
      cases reported : d.keyReported with
      | true =>
        obtain ⟨r, last, carries⟩ := tells.reported.1 reported
        exact ⟨tells.formed.release last carries, by simp [Device.report]⟩
      | false =>
        have silent := tells.reported
        rw [reported] at silent
        exact ⟨tells.formed, silent⟩
  · exact tells

/-- A host that is ready and hears that no key is held has a release as its last report, if any. -/
theorem Tells.released (tells : Tells d) (ready : d.host.ready = true) (modifiers : UInt8) :
    ∀ r, (Clipboard.send d none modifiers).host.reports.head? = some r → r = .release := by
  intro r last
  simp only [Clipboard.send, if_pos ready] at last
  cases reported : d.keyReported with
  | true =>
    simp only [reported, if_true, Device.report, List.head?_cons] at last
    exact (Option.some.inj last).symm
  | false =>
    simp only [reported, Bool.false_eq_true, if_false] at last
    apply tells.formed.eq_release last
    intro carries
    have holds := tells.reported.2 ⟨r, last, carries⟩
    rw [reported] at holds
    contradiction

theorem send_unready (unready : d.host.ready = false) (code : Option UInt8) (modifiers : UInt8) :
    send d code modifiers = d := by simp [send, unready]

theorem send_held (ready : d.host.ready = true) (code modifiers : UInt8) :
    (send d (some code) modifiers).host.reports.head? = some (.held code modifiers) := by
  simp [send, ready, Device.report]

theorem input_send (d : Device g) (code : Option UInt8) (modifiers : UInt8) :
    (send d code modifiers).settings = d.settings := by
  obtain ⟨_, _, sends⟩ := Features.clipboard_send_eq d code modifiers
  rw [sends]

theorem handle_eq (d : Device g) :
    handle d =
      send d.drain.2 d.settings.input.pressedKey d.settings.input.modifierFlags := by
  obtain ⟨pressed, modifiers⟩ := d.settings.input.held_drain
  unfold handle
  rw [← pressed, ← modifiers]
  rfl

theorem coded_start (coded : d.settings.input.Coded) : (start d).settings.input.Coded :=
  KeySettings.clipboard_induction (P := fun k => k.input.Coded)
    (fun _ coded s => s.coded_run coded) coded

theorem Tells.event (tells : Tells d) (coded : d.settings.input.Coded) {e : Event}
    (codes : e.Coded) : Tells (e.run d) ∧ (e.run d).settings.input.Coded := by
  cases e with
  | outside input ready => exact ⟨⟨tells.formed, tells.reported⟩, codes⟩
  | start =>
    refine ⟨?_, coded_start coded⟩
    rw [Event.run, Features.clipboard_start_eq]
    exact ⟨tells.formed, tells.reported⟩
  | handle =>
    have drained : Tells d.drain.2 := ⟨tells.formed, tells.reported⟩
    rw [Event.run, handle_eq, input_send]
    refine ⟨drained.send coded _, ?_⟩
    show d.settings.input.drain.2.pressedKey ≠ some 0
    rw [d.settings.input.held_drain.1]
    exact coded
  | stop =>
    rw [Event.run, stop, input_send]
    exact ⟨tells.send (by simp) 0, coded⟩

theorem Tells.run (tells : Tells d) (coded : d.settings.input.Coded) (events : List Event)
    (codes : ∀ e ∈ events, e.Coded) : Tells (run d events) := by
  induction events generalizing d with
  | nil => exact tells
  | cons e rest ih =>
    obtain ⟨first, after⟩ := tells.event coded (codes e List.mem_cons_self)
    exact ih first after fun e member => codes e (List.mem_cons_of_mem _ member)

/-- What holds of a clipboard at any time, and what its next call sends to the host. -/
structure Reports (d : Device g) : Prop where
  formed : Report.WellFormed d.host.reports
  reported : d.keyReported = true ↔ ∃ r, d.host.reports.head? = some r ∧ r.carriesKey = true
  start : (start d).host.reports = d.host.reports
  handle_unready : d.host.ready = false → (handle d).host.reports = d.host.reports
  stop_unready : d.host.ready = false → (stop d).host.reports = d.host.reports
  handle_held : d.host.ready = true → ∀ code, d.settings.input.pressedKey = some code →
    (handle d).host.reports.head? = some (.held code d.settings.input.modifierFlags)
  handle_released : d.host.ready = true → d.settings.input.pressedKey = none →
    ∀ r, (handle d).host.reports.head? = some r → r = .release
  stop_released : d.host.ready = true →
    ∀ r, (stop d).host.reports.head? = some r → r = .release
  /-- The presses are passed over, whether or not the host is ready. -/
  passed : (handle d).settings.input.pendingCount = 0

theorem Tells.reports (tells : Tells d) : Reports d := by
  have drained : Tells d.drain.2 := ⟨tells.formed, tells.reported⟩
  constructor
  case formed => exact tells.formed
  case reported => exact tells.reported
  case start => rw [Features.clipboard_start_eq]
  case handle_unready =>
    intro unready
    rw [handle_eq, send_unready (d := d.drain.2) unready]
    rfl
  case stop_unready =>
    intro unready
    rw [stop, send_unready unready]
  case handle_held =>
    intro ready code held
    rw [handle_eq, held]
    exact send_held (d := d.drain.2) ready code _
  case handle_released =>
    intro ready released
    rw [handle_eq, released]
    exact drained.released ready _
  case stop_released => exact fun ready => tells.released ready 0
  case passed =>
    rw [handle_eq, input_send]
    exact d.settings.input.pendingCount_drain

/-- From a clipboard on that has reported nothing yet, whatever is called in whatever order, while
keys go down and up and the host comes and goes. -/
theorem reports_run (unheard : d.host.reports = []) (unreported : d.keyReported = false)
    (coded : d.settings.input.Coded) (events : List Event) (codes : ∀ e ∈ events, e.Coded) :
    Reports (run d events) := by
  have silent : Tells d := by
    constructor
    · rw [unheard]
      exact .nil
    · simp [unheard, unreported]
  exact (silent.run coded events codes).reports

/-- The key is let go while the host is away. -/
theorem reports_run_copy :
    let g := Bench.Layout.unit.geometry
    let store := Bench.Layout.unitStore
    let settings : KeySettings g := ⟨store, .script {}, 500, .ofBoard []⟩
    let d : Device g := { settings, today := { year := 2024 } }
    d.host.reports = [] ∧ d.keyReported = false ∧
      Reports (run d [.start,
        .outside (.script { pressed := some Usage.c, modifiers := Modifier.leftGui }) true, .handle,
        .outside (.script {}) false, .handle, .outside (.script {}) true, .handle, .stop]) := by
  intro g store settings d
  have idle : (Input.script {}).Coded := by simp [Input.Coded, Input.pressedKey]
  have copying :
      (Input.script { pressed := some Usage.c, modifiers := Modifier.leftGui }).Coded := by
    simp [Input.Coded, Input.pressedKey, Usage.c]
  refine ⟨rfl, rfl, reports_run rfl rfl idle _ ?_⟩
  simp [Event.Coded, idle, copying]

end Clipboard

end Keypad
