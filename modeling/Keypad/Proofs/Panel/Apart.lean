import Keypad.Proofs.Panel.Projection
import Mathlib.Logic.Equiv.Basic

namespace Keypad.Bench

variable {b b' : PanelBench} {key : Nat} {rename : Nat → Nat} {c d : PanelCommand}

/-- Names for timers that are not there yet make no difference. -/
theorem around_renamed (sound : b.panel.timerBooks.Sound)
    (fixes : ∀ id ≤ b.panel.timers.started, rename id = id) (key : Nat) :
    (b.around key).renamed rename = b.around key := by
  have button : b.panel.buttons[key]?.map (Button.renamed rename) = b.panel.buttons[key]? := by
    cases found : b.panel.buttons[key]? with
    | none => rfl
    | some button =>
      have same : button.timer.map rename = button.timer := by
        cases timer : button.timer with
        | none => rfl
        | some id =>
          obtain ⟨t, held, rfl⟩ := Button.exists_held timer key
          have held := (heldTimers_of_getElem? found).trans held
          rw [Option.map_some, fixes t.id (sound.issued key t held)]
      simp only [Option.map_some, Button.renamed, same]
  have live : (b.panel.timers.liveAt key).map (Timer.renamed rename) =
      b.panel.timers.liveAt key := by
    refine (List.map_congr_left ?_).trans (List.map_id _)
    intro t member
    have held := sound.live_held t (TimerQueue.mem_liveAt.1 member).1
    simp only [Timer.renamed, fixes t.id (sound.issued t.key t held), id_eq]
  simp only [PanelBench.around, Surroundings.renamed, Panel.corner, Corner.renamed, button, live]

theorem alike_of_around (sound : b.panel.timerBooks.Sound)
    (fixes : ∀ id ≤ b.panel.timers.started, rename id = id) (same : b'.around key = b.around key) :
    b.Alike key rename b' := by
  rw [PanelBench.Alike, around_renamed sound fixes, same]

theorem renamed_id (c : PanelCommand) : c.renamed id = c := by
  cases c <;> rfl

theorem starts_of_around (sound : TimersSound b) (sound' : TimersSound b')
    (same : b'.around key = b.around key) (here : b.concerns key c = true)
    (here' : b'.concerns key c = true) (starts' : b'.starts c = true) : b.starts c = true := by
  by_contra quiet
  have matched : Matches key id b b' c := by
    refine matches_run Function.injective_id ?_ sound sound' here (by rwa [renamed_id]) ?_
    · exact alike_of_around sound.books (fun _ _ => rfl) same
    · exact fun starts => absurd (starts_eq_true_iff.2 starts) quiet
  have started := started_run sound.books c
  have started' := started_run sound'.books c
  have started_eq := matched.started_eq
  rw [Bool.eq_false_iff.2 quiet, Bool.toNat_false] at started
  rw [starts', Bool.toNat_true] at started'
  rw [renamed_id] at started_eq
  omega

theorem starts_eq_of_around (sound : TimersSound b) (sound' : TimersSound b')
    (same : b'.around key = b.around key) (here : b.concerns key c = true)
    (here' : b'.concerns key c = true) : b'.starts c = b.starts c := by
  rw [Bool.eq_iff_iff]
  constructor
  · exact starts_of_around sound sound' same here here'
  · exact starts_of_around sound' sound same.symm here' here

theorem gpios_configured (c : PanelCommand) (configs : List ButtonConfig) :
    (c.configured configs).map (·.gpio) = configs.map (·.gpio) := by
  have modified : ∀ (place : Nat) (f : ButtonConfig → ButtonConfig),
      (∀ c, (f c).gpio = c.gpio) →
      (configs.modify place f).map (·.gpio) = configs.map (·.gpio) := by
    intro place f same
    apply List.ext_getElem?
    intro key
    rw [List.getElem?_map, List.getElem?_map, List.getElem?_modify]
    cases configs[key]? with
    | none => rfl
    | some config => by_cases here : place = key <;> simp [here, same]
  cases c with
  | setValue id value => exact modified _ _ fun _ => rfl
  | setColor id color => exact modified _ _ fun _ => rfl
  | _ => rfl

theorem concerns_edge (b : PanelBench) (key : Nat) (gpio : UInt8) :
    b.concerns key (.edge gpio) =
      ((b.panel.configs.map (·.gpio)).findIdx? (· == gpio) == some key) := by
  rw [PanelBench.concerns, Panel.findIdx?_gpio, List.findIdx?_map]
  rfl

theorem concerns_run (kept : c.collects = false) (d : PanelCommand) (key : Nat) :
    (d.run b).2.concerns key c = b.concerns key c := by
  cases c with
  | edge gpio => rw [concerns_edge, concerns_edge, configs_run, gpios_configured]
  | take | wait => simp [PanelCommand.collects] at kept
  | _ => rfl

/-- Two commands that concern different buttons, the same ones in either order. Only a collection
can concern another button once the other command was run. -/
structure PanelBench.Apart (b : PanelBench) (c d : PanelCommand) : Prop where
  different : ∀ key, b.concerns key c = true → b.concerns key d = false
  first : c.collects = true → ∀ key, (d.run b).2.concerns key c = b.concerns key c
  last : d.collects = true → ∀ key, (c.run b).2.concerns key d = b.concerns key d

/-- Exchanges the timers that two commands start, if both start one. -/
def exchange (b : PanelBench) (c d : PanelCommand) : Nat → Nat :=
  if b.starts c && b.starts d then
    Equiv.swap (b.panel.timers.started + 1) (b.panel.timers.started + 2)
  else id

section Exchange

theorem exchange_injective (b : PanelBench) (c d : PanelCommand) :
    Function.Injective (exchange b c d) := by
  unfold exchange
  split
  · exact Equiv.injective _
  · exact Function.injective_id

theorem exchange_of_le {id : Nat} (old : id ≤ b.panel.timers.started) : exchange b c d id = id := by
  unfold exchange
  split
  · exact Equiv.swap_apply_of_ne_of_ne (by omega) (by omega)
  · rfl

theorem exchange_of_lt {id : Nat}
    (later : b.panel.timers.started + (b.starts c).toNat + (b.starts d).toNat < id) :
    exchange b c d id = id := by
  unfold exchange
  split
  · rename_i both
    obtain ⟨starts, starts'⟩ := Bool.and_eq_true_iff.1 both
    rw [starts, starts', Bool.toNat_true] at later
    exact Equiv.swap_apply_of_ne_of_ne (by omega) (by omega)
  · rfl

theorem exchange_first (starts : b.starts c = true) :
    exchange b c d (b.panel.timers.started + 1) =
      b.panel.timers.started + (b.starts d).toNat + 1 := by
  cases starts' : b.starts d <;> simp [exchange, starts, starts']

theorem exchange_last (starts : b.starts d = true) :
    exchange b c d (b.panel.timers.started + (b.starts c).toNat + 1) =
      b.panel.timers.started + 1 := by
  cases starts' : b.starts c <;> simp [exchange, starts, starts']

theorem Starts.renamed_eq (starts : Starts b c)
    (fixes : ∀ id ≤ b.panel.timers.started, rename id = id) : c.renamed rename = c := by
  cases c with
  | timer place id => rw [PanelCommand.renamed, fixes id (starts.issued place id rfl)]
  | retire id => exact absurd starts.started_eq (Nat.ne_of_lt (Nat.lt_succ_self _))
  | _ => rfl

/-- Commands that start timers name none that are not there yet. -/
theorem renamed_exchange (sound : TimersSound b) (c d : PanelCommand) :
    c.renamed (exchange b c d) = c ∧ d.renamed (exchange b c d) = d := by
  by_cases both : (b.starts c && b.starts d) = true
  · obtain ⟨starts, starts'⟩ := Bool.and_eq_true_iff.1 both
    have fixes : ∀ id ≤ b.panel.timers.started, exchange b c d id = id :=
      fun id old => exchange_of_le old
    have first := (run_starts sound.books c).resolve_left (starts_eq_true_iff.1 starts)
    have last := (run_starts sound.books d).resolve_left (starts_eq_true_iff.1 starts')
    exact ⟨first.renamed_eq fixes, last.renamed_eq fixes⟩
  · rw [exchange, if_neg both]
    exact ⟨renamed_id c, renamed_id d⟩

end Exchange

/-- A command that concerns other buttons leaves the next command what it would have started. -/
theorem starts_beside (sound : TimersSound b)
    (kept : ∀ key, (c.run b).2.concerns key d = b.concerns key d)
    (different : ∀ key, b.concerns key d = true → b.concerns key c = false) :
    (c.run b).2.starts d = b.starts d := by
  by_cases concerned : ∃ key, b.concerns key d = true
  · obtain ⟨key, here⟩ := concerned
    have same := around_run_beside sound.books (different key here)
    exact starts_eq_of_around sound (sound.run c) same here ((kept key).trans here)
  · have quiet : ∀ {b' : PanelBench}, TimersSound b' →
        (∀ key, b'.concerns key d = b.concerns key d) → b'.starts d = false := by
      intro b' sound' kept
      refine Bool.eq_false_iff.2 fun starts => ?_
      have starts := (run_starts sound'.books d).resolve_left (starts_eq_true_iff.1 starts)
      obtain ⟨key, here⟩ := starts.concerned
      exact concerned ⟨key, (kept key).symm.trans here⟩
    rw [quiet sound fun _ => rfl, quiet (sound.run c) kept]

namespace PanelBench.Apart

variable (apart : b.Apart c d)
include apart

theorem different' (here : b.concerns key d = true) : b.concerns key c = false := by
  cases there : b.concerns key c with
  | false => rfl
  | true => exact absurd ((apart.different key there).symm.trans here) (by decide)

theorem concerns_first (key : Nat) : (d.run b).2.concerns key c = b.concerns key c := by
  cases collects : c.collects with
  | false => exact concerns_run collects d key
  | true => exact apart.first collects key

theorem concerns_last (key : Nat) : (c.run b).2.concerns key d = b.concerns key d := by
  cases collects : d.collects with
  | false => exact concerns_run collects c key
  | true => exact apart.last collects key

variable (sound : TimersSound b)
include sound

theorem starts_first : (d.run b).2.starts c = b.starts c :=
  starts_beside sound apart.concerns_first apart.different

theorem starts_last : (c.run b).2.starts d = b.starts d :=
  starts_beside sound apart.concerns_last fun _ => apart.different'

theorem started_eq :
    (d.run (c.run b).2).2.panel.timers.started = (c.run (d.run b).2).2.panel.timers.started := by
  rw [started_run (sound.run c).books, started_run (sound.run d).books, started_run sound.books,
    started_run sound.books, apart.starts_first sound, apart.starts_last sound, Nat.add_right_comm]

theorem matches_first (here : b.concerns key c = true) :
    Matches key (exchange b c d) b (d.run b).2 c := by
  have same := around_run_beside sound.books (apart.different key here)
  have alike := alike_of_around sound.books (fun _ old => exchange_of_le (c := c) (d := d) old) same
  refine matches_run (exchange_injective b c d) alike sound (sound.run d) here ?_ ?_
  · rw [(renamed_exchange sound c d).1, apart.concerns_first, here]
  · intro starts
    rw [exchange_first (starts_eq_true_iff.2 starts), started_run sound.books]

theorem matches_last (here : b.concerns key d = true) :
    Matches key (exchange b c d) (c.run b).2 b d := by
  have same := around_run_beside sound.books (apart.different' here)
  have alike : (c.run b).2.Alike key (exchange b c d) b := by
    rw [PanelBench.Alike, same, around_renamed sound.books fun _ old => exchange_of_le old]
  refine matches_run (exchange_injective b c d) alike (sound.run c) sound ?_ ?_ ?_
  · rw [apart.concerns_last, here]
  · rw [(renamed_exchange sound c d).2, here]
  · intro starts
    rw [← starts_eq_true_iff, apart.starts_last sound] at starts
    rw [started_run sound.books, exchange_last starts]

/-- In either order both commands come to the same for every button. -/
theorem alike (key : Nat) :
    (d.run (c.run b).2).2.Alike key (exchange b c d) (c.run (d.run b).2).2 := by
  obtain ⟨renamed_c, renamed_d⟩ := renamed_exchange sound c d
  cases here : b.concerns key c with
  | true =>
    have beside : (c.run b).2.concerns key d = false := by
      rw [apart.concerns_last, apart.different key here]
    have matched := (apart.matches_first sound here).alike
    rw [renamed_c] at matched
    rw [PanelBench.Alike, around_run_beside (sound.run c).books beside]
    exact matched
  | false =>
    have beside : (d.run b).2.concerns key c = false := by rw [apart.concerns_first, here]
    have same := around_run_beside (sound.run d).books beside
    rw [PanelBench.Alike, same]
    cases there : b.concerns key d with
    | true =>
      have matched := (apart.matches_last sound there).alike
      rw [renamed_d] at matched
      exact matched
    | false =>
      have beside : (c.run b).2.concerns key d = false := by rw [apart.concerns_last, there]
      rw [around_run_beside (sound.run c).books beside, around_run_beside sound.books here,
        around_run_beside sound.books there,
        around_renamed sound.books fun _ old => exchange_of_le old]

end PanelBench.Apart

structure AllAlike (rename : Nat → Nat) (b b' : PanelBench) : Prop where
  alike : ∀ key, b.Alike key rename b'
  started_eq : b'.panel.timers.started = b.panel.timers.started
  later : ∀ id, b.panel.timers.started < id → rename id = id
  sound : TimersSound b
  sound' : TimersSound b'
  heard : b.Heard
  heard' : b'.Heard

namespace AllAlike

variable (all : AllAlike rename b b')
include all

theorem pending_eq :
    b'.panel.buttons.findIdx? (·.pending) = b.panel.buttons.findIdx? (·.pending) := by
  have pending : b'.panel.buttons.map (·.pending) = b.panel.buttons.map (·.pending) := by
    apply List.ext_getElem?
    intro key
    rw [List.getElem?_map, List.getElem?_map, (all.alike key).panel.button]
    cases b.panel.buttons[key]? <;> rfl
  have by_flags : ∀ bs : List Button, bs.findIdx? (·.pending) =
      (bs.map (·.pending)).findIdx? id := by
    intro bs
    rw [List.findIdx?_map]
    rfl
  rw [by_flags, by_flags, pending]

theorem concerns_eq (c : PanelCommand) (key : Nat) :
    b'.concerns key (c.renamed rename) = b.concerns key c := by
  cases collects : c.collects with
  | false => exact (all.alike key).concerns_eq collects
  | true =>
    have collects' : (c.renamed rename).collects = true := by rwa [c.collects_renamed]
    rw [concerns_of_collects all.heard collects, concerns_of_collects all.heard' collects',
      all.pending_eq]

theorem run_matches (injective : Function.Injective rename) (here : b.concerns key c = true) :
    Matches key rename b b' c := by
  refine matches_run injective (all.alike key) all.sound all.sound' here ?_ ?_
  · rw [all.concerns_eq, here]
  · intro _
    rw [all.later _ (Nat.lt_succ_self _), all.started_eq]

theorem run (injective : Function.Injective rename) (c : PanelCommand) :
    AllAlike rename (c.run b).2 ((c.renamed rename).run b').2 where
  alike := by
    intro key
    cases here : b.concerns key c with
    | true => exact (all.run_matches injective here).alike
    | false =>
      have beside : b'.concerns key (c.renamed rename) = false := by rw [all.concerns_eq, here]
      rw [PanelBench.Alike, around_run_beside all.sound.books here,
        around_run_beside all.sound'.books beside]
      exact all.alike key
  started_eq := by
    have same := all.started_eq
    rcases run_starts all.sound.books c with quiet | starts
    · rcases run_starts all.sound'.books (c.renamed rename) with quiet' | starts'
      · rw [quiet, quiet', same]
      · obtain ⟨key, here⟩ := starts'.concerned
        have matched := all.run_matches injective ((all.concerns_eq c key).symm.trans here)
        have started_eq := matched.started_eq
        omega
    · obtain ⟨key, here⟩ := starts.concerned
      have started_eq := (all.run_matches injective here).started_eq
      omega
  later := by
    intro id later
    have started := started_run all.sound.books c
    exact all.later id (by omega)
  sound := all.sound.run c
  sound' := all.sound'.run (c.renamed rename)
  heard := all.heard.run c
  heard' := all.heard'.run (c.renamed rename)

end AllAlike

theorem AllAlike.glimpses_eq (injective : Function.Injective rename) (all : AllAlike rename b b')
    (key : Nat) (commands : List PanelCommand) :
    b'.glimpses key (commands.map (·.renamed rename)) =
      (b.glimpses key commands).map (·.renamed rename) := by
  induction commands generalizing b b' with
  | nil => rfl
  | cons c rest ih =>
    have later := ih (all.run injective c)
    simp only [List.map_cons, PanelBench.glimpses, all.concerns_eq, later]
    cases here : b.concerns key c with
    | false => rfl
    | true => simp [(all.run_matches injective here).glimpse_eq]

namespace PanelBench.Apart

variable (apart : b.Apart c d) (sound : TimersSound b) (heard : b.Heard)
include apart sound heard

theorem allAlike : AllAlike (exchange b c d) (d.run (c.run b).2).2 (c.run (d.run b).2).2 where
  alike := apart.alike sound
  started_eq := (apart.started_eq sound).symm
  later := by
    intro id later
    rw [started_run (sound.run c).books, started_run sound.books, apart.starts_last sound] at later
    exact exchange_of_lt later
  sound := (sound.run c).run d
  sound' := (sound.run d).run c
  heard := (heard.run c).run d
  heard' := (heard.run d).run c

/-- Neither order of the two makes a difference to a button, whatever follows. -/
theorem glimpses_swap (key : Nat) (rest : List PanelCommand) :
    b.glimpses key (d :: c :: rest.map (·.renamed (exchange b c d))) =
      (b.glimpses key (c :: d :: rest)).map (·.renamed (exchange b c d)) := by
  obtain ⟨renamed_c, renamed_d⟩ := renamed_exchange sound c d
  have later := (apart.allAlike sound heard).glimpses_eq (exchange_injective b c d) key rest
  simp only [PanelBench.glimpses, apart.concerns_first, apart.concerns_last, later]
  cases here : b.concerns key c with
  | true =>
    have glimpse := (apart.matches_first sound here).glimpse_eq
    rw [renamed_c] at glimpse
    simp [apart.different key here, glimpse]
  | false =>
    cases there : b.concerns key d with
    | true =>
      have glimpse := (apart.matches_last sound there).glimpse_eq
      rw [renamed_d] at glimpse
      simp [glimpse]
    | false => simp

end PanelBench.Apart

section Start

variable (board : List ButtonConfig) (clock : UInt64) (thresholdMs : UInt32)

theorem nonePending_ofBoard :
    NonePending (PanelBench.ofBoard board clock thresholdMs).panel.buttons := by
  intro button member
  obtain ⟨config, -, rfl⟩ := List.mem_map.1 member
  rfl

theorem heard_ofBoard : (PanelBench.ofBoard board clock thresholdMs).Heard :=
  fun _ _ => nonePending_ofBoard board clock thresholdMs

theorem heard_after (heard : b.Heard) (commands : List PanelCommand) :
    (b.after commands).Heard := by
  induction commands generalizing b with
  | nil => exact heard
  | cons c rest ih => exact ih (heard.run c)

theorem shadows_ofBoard (key : Nat) (commands : List PanelCommand) :
    let start := PanelBench.ofBoard board clock thresholdMs
    Shadows key (numbering (start.issued key commands)) start start commands := by
  intro start
  have sound : TimersSound start := timersSound_ofBoard board clock thresholdMs
  refine ⟨?_, sound, sound, heard_ofBoard board clock thresholdMs, ?_, ?_⟩
  · refine .of_parts (.of_parts ?_ ⟨rfl, rfl⟩) rfl rfl rfl
    simp only [start, PanelBench.ofBoard, Panel.ofBoard, List.getElem?_map]
    cases board[key]? <;> rfl
  · intro place button apart found
    exact nonePending_ofBoard board clock thresholdMs button (List.mem_of_getElem? found)
  · intro n id later
    have none_started : start.panel.timers.started = 0 := rfl
    rw [numbering_getElem? (issued_nodup sound key commands) later, none_started]
    omega

theorem gpios_after (b : PanelBench) (commands : List PanelCommand) :
    (b.after commands).panel.configs.map (·.gpio) = b.panel.configs.map (·.gpio) := by
  induction commands generalizing b with
  | nil => rfl
  | cons c rest ih => exact (ih (c.run b).2).trans (by rw [configs_run, gpios_configured])

theorem concerns_edge_iff (distinct : (board.map (·.gpio)).Nodup) (commands : List PanelCommand)
    (key : Nat) (gpio : UInt8) :
    ((PanelBench.ofBoard board clock thresholdMs).after commands).concerns key (.edge gpio) = true ↔
      (board.map (·.gpio))[key]? = some gpio := by
  have pins : (PanelBench.ofBoard board clock thresholdMs).panel.configs = board := by
    simp only [Panel.configs, PanelBench.ofBoard, Panel.ofBoard, List.map_map]
    exact List.map_id _
  rw [concerns_edge, gpios_after, pins, beq_iff_eq, List.findIdx?_eq_some_iff_getElem,
    List.getElem?_eq_some_iff]
  constructor
  · rintro ⟨within, here, -⟩
    exact ⟨within, by simpa using here⟩
  · rintro ⟨within, here⟩
    refine ⟨within, by simpa using here, ?_⟩
    intro before less same
    have equal := (beq_iff_eq.1 same).trans here.symm
    exact absurd ((List.getElem_inj distinct).1 equal) (Nat.ne_of_lt less)

end Start

/-- A run shows a button what its own commands would show it alone, and two commands that concern
different buttons can be swapped. The timers are renamed, since all come out of one queue. -/
theorem buttons_apart (board : List ButtonConfig) (clock : UInt64) (thresholdMs : UInt32)
    (commands : List PanelCommand) :
    let start := PanelBench.ofBoard board clock thresholdMs
    let b := start.after commands
    ((board.map (·.gpio)).Nodup → ∀ key gpio,
      b.concerns key (.edge gpio) = true ↔ (board.map (·.gpio))[key]? = some gpio) ∧
    (∀ key, ∃ rename, Function.Injective rename ∧
      let own := (start.own key commands).map (·.renamed rename)
      start.own key own = own ∧
        start.glimpses key own = (start.glimpses key commands).map (·.renamed rename)) ∧
    (∀ key c, b.concerns key c = false →
      (c.run b).2.panel.buttons[key]? = b.panel.buttons[key]?) ∧
    ∀ c d, b.Apart c d → ∃ rename, Function.Injective rename ∧ ∀ key rest,
      b.glimpses key (d :: c :: rest.map (·.renamed rename)) =
        (b.glimpses key (c :: d :: rest)).map (·.renamed rename) := by
  intro start b
  have sound : TimersSound b := (timersSound_ofBoard board clock thresholdMs).after commands
  have heard : b.Heard := heard_after (heard_ofBoard board clock thresholdMs) commands
  refine ⟨?_, ?_, ?_, ?_⟩
  · intro distinct
    exact concerns_edge_iff board clock thresholdMs distinct commands
  · intro key
    have injective := numbering_injective (start.issued key commands)
    have shadows := shadows_ofBoard board clock thresholdMs key commands
    exact ⟨_, injective, shadows.glimpses_eq injective⟩
  · intro key c beside
    exact congrArg (·.corner.button) (around_run_beside sound.books beside)
  · intro c d apart
    exact ⟨exchange b c d, exchange_injective b c d, apart.glimpses_swap sound heard⟩

def pairBoard : List ButtonConfig :=
  [{ id := 1, gpio := 10, value := default, color := default },
    { id := 2, gpio := 11, value := default, color := default }]

/-- Both buttons of a board are pressed, in either order. -/
theorem edges_apart :
    (pairBoard.map (·.gpio)).Nodup ∧
      let b := (PanelBench.ofBoard pairBoard 1 500).after [.init]
      (b.concerns 1 (.edge 11) = true ∧ b.concerns 0 (.edge 11) = false) ∧
      ((PanelCommand.edge 11).run b).2.panel.buttons[0]? = b.panel.buttons[0]? ∧
      b.Apart (.edge 10) (.edge 11) ∧
      ∃ rename, Function.Injective rename ∧ ∀ key rest,
        b.glimpses key (.edge 11 :: .edge 10 :: rest.map (·.renamed rename)) =
          (b.glimpses key (.edge 10 :: .edge 11 :: rest)).map (·.renamed rename) := by
  have distinct : (pairBoard.map (·.gpio)).Nodup := by decide
  obtain ⟨pins, -, beside, swap⟩ := buttons_apart pairBoard 1 500 [.init]
  have apart :
      ((PanelBench.ofBoard pairBoard 1 500).after [.init]).Apart (.edge 10) (.edge 11) := by
    constructor
    · intro key here
      have pin := (pins distinct key 10).1 here
      refine Bool.eq_false_iff.2 fun there => ?_
      have pin' := (pins distinct key 11).1 there
      exact absurd (pin.symm.trans pin') (by decide)
    · simp [PanelCommand.collects]
    · simp [PanelCommand.collects]
  refine ⟨distinct, ?_, ?_, apart, swap _ _ apart⟩
  · exact ⟨(pins distinct 1 11).2 rfl, by decide⟩
  · exact beside 0 (.edge 11) (by decide)

/-- A press that becomes pending before a collection takes the place of a later button's press. That
one is still pending when its pin falls again, and the second press of the later button is lost. -/
theorem take_timer_not_apart :
    let b := (PanelBench.ofBoard pairBoard 1 500).after [.init, .edge 11, .timer 1 1, .edge 10]
    let rest : List PanelCommand := [.edge 11, .timer 1 3, .take, .take]
    (b.concerns 0 .take = false ∧ b.concerns 1 .take = true) ∧
      (b.concerns 0 (.timer 0 2) = true ∧ b.concerns 1 (.timer 0 2) = false) ∧
      (b.account 1 (.take :: .timer 0 2 :: rest)).delivered = 2 ∧
      (b.account 1 (.timer 0 2 :: .take :: rest)).delivered = 1 := by
  decide

end Keypad.Bench
