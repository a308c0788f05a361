import Keypad.Proofs.Panel.Matching

/-! What a run looks like to one button. Of a run, only the commands that concern the button are
kept (`PanelBench.own`); run alone, with the timers renamed by their order, they show the button
just what it went through in the whole run. -/
namespace Keypad.Bench

/-- What is seen of a button when a command concerns it: the reply, and the button afterwards. -/
structure Glimpse where
  reply : Reply
  button : Option Button

def Glimpse.renamed (rename : Nat → Nat) (g : Glimpse) : Glimpse :=
  { g with button := g.button.map (Button.renamed rename) }

namespace PanelBench

def glimpse (b : PanelBench) (key : Nat) (c : PanelCommand) : Glimpse where
  reply := (c.run b).1
  button := (c.run b).2.panel.buttons[key]?

def glimpses (b : PanelBench) (key : Nat) : List PanelCommand → List Glimpse
  | [] => []
  | c :: rest =>
    let later := (c.run b).2.glimpses key rest
    if b.concerns key c then b.glimpse key c :: later else later

def own (b : PanelBench) (key : Nat) : List PanelCommand → List PanelCommand
  | [] => []
  | c :: rest =>
    let later := (c.run b).2.own key rest
    if b.concerns key c then c :: later else later

def starts (b : PanelBench) (c : PanelCommand) : Bool :=
  (c.run b).2.panel.timers.started != b.panel.timers.started

def issued (b : PanelBench) (key : Nat) : List PanelCommand → List Nat
  | [] => []
  | c :: rest =>
    let later := (c.run b).2.issued key rest
    if b.concerns key c && b.starts c then (b.panel.timers.started + 1) :: later else later

end PanelBench

/-- Renames timers by their order in a list, and all others to numbers behind. -/
def numbering (ids : List Nat) (id : Nat) : Nat :=
  if id ∈ ids then ids.idxOf id + 1 else ids.length + 1 + id

theorem numbering_injective (ids : List Nat) : Function.Injective (numbering ids) := by
  intro i j same
  unfold numbering at same
  by_cases listed : i ∈ ids
  · have before := List.idxOf_lt_length_iff.2 listed
    by_cases listed' : j ∈ ids
    · rw [if_pos listed, if_pos listed'] at same
      exact (List.idxOf_inj listed).1 (Nat.succ.inj same)
    · rw [if_pos listed, if_neg listed'] at same
      omega
  · by_cases listed' : j ∈ ids
    · have before := List.idxOf_lt_length_iff.2 listed'
      rw [if_neg listed, if_pos listed'] at same
      omega
    · rw [if_neg listed, if_neg listed'] at same
      omega

theorem numbering_getElem? {ids : List Nat} (nodup : ids.Nodup) {n id : Nat}
    (at_place : ids[n]? = some id) : numbering ids id = n + 1 := by
  obtain ⟨within, rfl⟩ := List.getElem?_eq_some_iff.1 at_place
  rw [numbering, if_pos (List.getElem_mem within), nodup.idxOf_getElem]

variable {b b' : PanelBench} {key : Nat} {rename : Nat → Nat} {c : PanelCommand}

theorem starts_eq_true_iff : b.starts c = true ↔
    (c.run b).2.panel.timers.started ≠ b.panel.timers.started := by
  simp [PanelBench.starts]

theorem started_run (sound : b.panel.timerBooks.Sound) (c : PanelCommand) :
    (c.run b).2.panel.timers.started = b.panel.timers.started + (b.starts c).toNat := by
  rcases run_starts sound c with same | starts
  · simp [PanelBench.starts, same]
  · have more : b.starts c = true := by
      rw [starts_eq_true_iff, starts.started_eq]
      exact Nat.succ_ne_self _
    rw [starts.started_eq, more, Bool.toNat_true]

theorem issued_pairwise (sound : TimersSound b) (key : Nat) (commands : List PanelCommand) :
    (b.panel.timers.started :: b.issued key commands).Pairwise (· < ·) := by
  induction commands generalizing b with
  | nil => exact List.pairwise_singleton ..
  | cons c rest ih =>
    have later := ih (sound.run c)
    rw [started_run sound.books] at later
    obtain ⟨above, ordered⟩ := List.pairwise_cons.1 later
    simp only [PanelBench.issued]
    by_cases issues : (b.concerns key c && b.starts c) = true
    · have starts : b.starts c = true := (Bool.and_eq_true_iff.1 issues).2
      rw [starts, Bool.toNat_true] at later
      rw [if_pos issues]
      refine List.pairwise_cons.2 ⟨?_, later⟩
      intro id listed
      rcases List.mem_cons.1 listed with rfl | listed
      · exact Nat.lt_succ_self _
      · have := above id listed
        omega
    · rw [if_neg issues]
      refine List.pairwise_cons.2 ⟨?_, ordered⟩
      intro id listed
      have := above id listed
      omega

theorem issued_nodup (sound : TimersSound b) (key : Nat) (commands : List PanelCommand) :
    (b.issued key commands).Nodup :=
  (List.pairwise_cons.1 (issued_pairwise sound key commands)).2.imp Nat.ne_of_lt

def PanelCommand.collects : PanelCommand → Bool
  | .take | .wait => true
  | _ => false

theorem PanelCommand.collects_renamed (rename : Nat → Nat) (c : PanelCommand) :
    (c.renamed rename).collects = c.collects := by
  cases c <;> rfl

/-- What a collection concerns: the first button with a press pending. -/
theorem concerns_of_collects (heard : b.Heard) (collects : c.collects = true) (key : Nat) :
    b.concerns key c = (b.panel.buttons.findIdx? (·.pending) == some key) := by
  have taken : b.handsOver key (Reply.ofOption .event b.panel.take.1) =
      (b.panel.buttons.findIdx? (·.pending) == some key) := by
    have collection := b.panel.take_collection
    have nothing : b.panel.take.1 = none → NonePending b.panel.buttons :=
      (Panel.takeFirst_none_iff b.panel.buttons).1
    generalize b.panel.take.1 = event, b.panel.take.2.buttons = after at collection nothing ⊢
    cases collection with
    | empty =>
      have absent : b.panel.buttons.findIdx? (·.pending) = none :=
        List.findIdx?_eq_none_iff.2 (nothing rfl)
      rw [absent]
      rfl
    | first place button first found =>
      rw [first]
      exact handsOver_event first found key
  cases c with
  | take => exact taken
  | wait =>
    have polled := (Panel.Heard.poll heard).1
    rw [PanelBench.concerns, run_wait, ← taken]
    simp only [polled]
    cases b.panel.take.1 <;> rfl
  | _ => simp [PanelCommand.collects] at collects

theorem PanelBench.Alike.concerns_eq (alike : b.Alike key rename b') (kept : c.collects = false) :
    b'.concerns key (c.renamed rename) = b.concerns key c := by
  cases c with
  | edge gpio => simp only [PanelCommand.renamed, concerns, alike.wired]
  | take | wait => simp [PanelCommand.collects] at kept
  | _ => rfl

theorem first_of_handsOver {reply : Reply} (handed : b.handsOver key reply = true) :
    b.panel.buttons.findIdx? (·.pending) = some key := by
  cases reply <;> simp_all [PanelBench.handsOver]

theorem first_of_concerns (collects : c.collects = true) (here : b.concerns key c = true) :
    b.panel.buttons.findIdx? (·.pending) = some key := by
  cases c with
  | take => exact first_of_handsOver here
  | wait => exact first_of_handsOver here
  | _ => simp [PanelCommand.collects] at collects

def NoneElsePending (b : PanelBench) (key : Nat) : Prop :=
  ∀ place button, place ≠ key → b.panel.buttons[place]? = some button → button.pending = false

theorem NoneElsePending.first (alone : NoneElsePending b key) {button : Button}
    (found : b.panel.buttons[key]? = some button) (pending : button.pending = true) :
    b.panel.buttons.findIdx? (·.pending) = some key := by
  obtain ⟨within, rfl⟩ := List.getElem?_eq_some_iff.1 found
  refine List.findIdx?_eq_some_iff_getElem.2 ⟨within, pending, ?_⟩
  intro place before
  have idle := alone place _ (Nat.ne_of_lt before) (List.getElem?_eq_getElem (by omega))
  simp [idle]

theorem NoneElsePending.configure {f : ButtonConfig → ButtonConfig} {id : UInt8} {place : Nat}
    {button : Button} (alone : NoneElsePending b key) (apart : place ≠ key)
    (found : (Panel.configure f id b.panel.buttons)[place]? = some button) :
    button.pending = false := by
  rw [Panel.configure_eq_modify, List.getElem?_modify] at found
  obtain ⟨before, there, rfl⟩ := Option.map_eq_some_iff.1 found
  have idle := alone place before apart there
  split <;> exact idle

/-- What concerns a second button makes no press pending there. -/
theorem NoneElsePending.run (alone : NoneElsePending b key) (sound : TimersSound b)
    (here : b.concerns key c = true) : NoneElsePending (c.run b).2 key := by
  intro place button apart found
  cases there : b.concerns place c with
  | false =>
    have kept : (c.run b).2.panel.buttons[place]? = b.panel.buttons[place]? :=
      congrArg (·.corner.button) (around_run_beside sound.books there)
    exact alone place button apart (kept ▸ found)
  | true =>
    -- Both buttons are concerned, so that the command is none of a single button's.
    cases c with
    | init =>
      simp only [PanelCommand.run, Panel.buttons_init, List.getElem?_map,
        Option.map_eq_some_iff] at found
      obtain ⟨before, -, rfl⟩ := found
      rfl
    | setValue id value => exact alone.configure apart found
    | setColor id color => exact alone.configure apart found
    | retire id => exact alone place button apart found
    | exhaust exhausted => exact alone place button apart found
    | setThreshold ms => exact alone place button apart found
    | advance | setClock | sleep =>
      rw [(onlyClock_run b rfl).buttons] at found
      exact alone place button apart found
    | take | wait =>
      have first := first_of_handsOver here
      rw [first_of_handsOver there] at first
      exact absurd (Option.some.inj first) apart
    | _ => simp_all [PanelBench.concerns]

theorem Matches.glimpse_eq (matched : Matches key rename b b' c) :
    b'.glimpse key (c.renamed rename) = (b.glimpse key c).renamed rename := by
  rw [PanelBench.glimpse, PanelBench.glimpse, matched.reply_eq, matched.alike.panel.button]
  rfl

/-- A bench that runs a button's own commands beside one that runs all. The timers that are to come
have their names there already. -/
structure Shadows (key : Nat) (rename : Nat → Nat) (b b' : PanelBench)
    (commands : List PanelCommand) : Prop where
  alike : b.Alike key rename b'
  sound : TimersSound b
  sound' : TimersSound b'
  heard : b'.Heard
  alone : NoneElsePending b' key
  numbered : ∀ n id, (b.issued key commands)[n]? = some id →
    rename id = b'.panel.timers.started + n + 1

namespace Shadows

variable {rest : List PanelCommand}

theorem beside (shadows : Shadows key rename b b' (c :: rest)) (beside : b.concerns key c = false) :
    Shadows key rename (c.run b).2 b' rest := by
  obtain ⟨alike, sound, sound', heard, alone, numbered⟩ := shadows
  refine ⟨?_, sound.run c, sound', heard, alone, ?_⟩
  · rw [PanelBench.Alike, around_run_beside sound.books beside]
    exact alike
  · simpa [PanelBench.issued, beside] using numbered

section Own

variable (shadows : Shadows key rename b b' (c :: rest)) (here : b.concerns key c = true)
include shadows here

theorem concerns : b'.concerns key (c.renamed rename) = true := by
  cases collects : c.collects with
  | false => rw [shadows.alike.concerns_eq collects, here]
  | true =>
    have first := first_of_concerns collects here
    obtain ⟨within, pending, -⟩ := List.findIdx?_eq_some_iff_getElem.1 first
    have found' := shadows.alike.panel.found (List.getElem?_eq_getElem within)
    have collects' : (c.renamed rename).collects = true := by rwa [c.collects_renamed]
    rw [concerns_of_collects shadows.heard collects', shadows.alone.first found' pending]
    exact beq_self_eq_true _

theorem run_matches (injective : Function.Injective rename) : Matches key rename b b' c := by
  refine matches_run injective shadows.alike shadows.sound shadows.sound' here
    (shadows.concerns here) ?_
  intro starts
  apply shadows.numbered 0
  simp [PanelBench.issued, here, starts_eq_true_iff.2 starts]

theorem run (injective : Function.Injective rename) :
    Shadows key rename (c.run b).2 ((c.renamed rename).run b').2 rest where
  alike := (shadows.run_matches here injective).alike
  sound := shadows.sound.run c
  sound' := shadows.sound'.run (c.renamed rename)
  heard := shadows.heard.run (c.renamed rename)
  alone := shadows.alone.run shadows.sound' (shadows.concerns here)
  numbered := by
    intro n id later
    have started_eq := (shadows.run_matches here injective).started_eq
    have started := started_run shadows.sound.books c
    cases starts : b.starts c with
    | false =>
      have number := shadows.numbered n id (by simpa [PanelBench.issued, starts] using later)
      rw [starts, Bool.toNat_false] at started
      omega
    | true =>
      have number := shadows.numbered (n + 1) id
        (by simpa [PanelBench.issued, here, starts] using later)
      rw [starts, Bool.toNat_true] at started
      omega

end Own

end Shadows

/-- The button's own commands show of it what the whole run shows. -/
theorem Shadows.glimpses_eq {commands : List PanelCommand} (injective : Function.Injective rename)
    (shadows : Shadows key rename b b' commands) :
    let own := (b.own key commands).map (·.renamed rename)
    b'.own key own = own ∧
      b'.glimpses key own = (b.glimpses key commands).map (·.renamed rename) := by
  induction commands generalizing b b' with
  | nil => exact ⟨rfl, rfl⟩
  | cons c rest ih =>
    cases concerned : b.concerns key c with
    | false =>
      have later := ih (shadows.beside concerned)
      simpa [PanelBench.own, PanelBench.glimpses, concerned] using later
    | true =>
      have concerned' := shadows.concerns concerned
      have glimpse := (shadows.run_matches concerned injective).glimpse_eq
      obtain ⟨own, glimpses⟩ := ih (shadows.run concerned injective)
      simp only [PanelBench.own, PanelBench.glimpses, concerned, concerned', if_true, List.map_cons,
        own, glimpses, glimpse]
      exact ⟨trivial, trivial⟩

end Keypad.Bench
