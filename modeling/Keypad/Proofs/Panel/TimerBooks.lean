import Keypad.Proofs.Panel.Consistency
import Mathlib.Data.List.Perm.Subperm
import Mathlib.Logic.Function.Basic
import Mathlib.Logic.Relation

/-! Which timers the buttons hold, beside those that are live in the queue. All that commands do to
both comes down to a few moves (`TimerMove`), so that what holds of the timers is proved move by
move: every live timer is held (`Sound`), every timer that is held is live (`Complete`), and a
number that no button holds any more never comes back (`Dropped`). -/
namespace Keypad

open Relation (ReflTransGen)

def Button.held (b : Button) (key : Nat) : Option Timer :=
  b.timer.map fun id =>
    if b.watchedSince.isSome then ⟨id, key, watchMs, .periodic⟩
    else ⟨id, key, debounceMs, .oneShot⟩

theorem Button.held_eq_none_iff {b : Button} {key : Nat} : b.held key = none ↔ b.timer = none := by
  simp [held]

theorem Button.held_eq_some {b : Button} {key : Nat} {t : Timer} (held : b.held key = some t) :
    b.timer = some t.id ∧ t.key = key := by
  obtain ⟨id, timer, rfl⟩ := Option.map_eq_some_iff.1 held
  split
  · exact ⟨timer, rfl⟩
  · exact ⟨timer, rfl⟩

theorem Button.exists_held {b : Button} {id : Nat} (timer : b.timer = some id) (key : Nat) :
    ∃ t, b.held key = some t ∧ t.id = id := by
  rw [held, timer]
  refine ⟨_, rfl, ?_⟩
  split <;> rfl

/-- The timers that the buttons hold, by the places of the buttons. -/
def heldTimers (bs : List Button) (key : Nat) : Option Timer := bs[key]?.bind (·.held key)

theorem heldTimers_of_getElem? {bs : List Button} {key : Nat} {b : Button}
    (found : bs[key]? = some b) : heldTimers bs key = b.held key := by
  rw [heldTimers, found, Option.bind_some]

theorem heldTimers_eq_some {bs : List Button} {key : Nat} {t : Timer}
    (held : heldTimers bs key = some t) : ∃ b, bs[key]? = some b ∧ b.held key = some t :=
  Option.bind_eq_some_iff.1 held

theorem heldTimers_set {bs : List Button} {place : Nat} {b : Button}
    (found : bs[place]? = some b) (b' : Button) :
    heldTimers (bs.set place b') = Function.update (heldTimers bs) place (b'.held place) := by
  obtain ⟨within, -⟩ := List.getElem?_eq_some_iff.1 found
  funext key
  by_cases here : key = place
  · subst here
    rw [Function.update_self, heldTimers, List.getElem?_set_self within, Option.bind_some]
  · rw [Function.update_of_ne here, heldTimers, List.getElem?_set_ne (Ne.symm here), heldTimers]

theorem heldTimers_modify {f : Button → Button} (same : ∀ b key, (f b).held key = b.held key)
    (bs : List Button) (place : Nat) : heldTimers (bs.modify place f) = heldTimers bs := by
  funext key
  unfold heldTimers
  rw [List.getElem?_modify]
  cases bs[key]? with
  | none => rfl
  | some b =>
    by_cases here : place = key
    · simp only [if_pos here, Option.map_eq_map, Option.map_some, Option.bind_some, same]
    · simp only [if_neg here, Option.map_eq_map, Option.map_some, Option.bind_some]

structure TimerBooks where
  held : Nat → Option Timer
  queue : TimerQueue

/-- What commands do to the timers. Only a timer that is held is cancelled, and only a place that
holds none takes a new one. -/
inductive TimerMove : TimerBooks → TimerBooks → Prop where
  | dropped {held : Nat → Option Timer} {q : TimerQueue} {place : Nat} {t : Timer} :
      held place = some t →
      TimerMove ⟨held, q⟩ ⟨Function.update held place none, q.cancel t.id⟩
  | taken {held : Nat → Option Timer} {q : TimerQueue} {place : Nat} {t : Timer} :
      held place = none → t.key = place → t.id = q.started + 1 →
      TimerMove ⟨held, q⟩
        ⟨Function.update held place (some t),
          { q with started := q.started + 1, live := q.live ++ [t] }⟩
  | spent {held : Nat → Option Timer} {q : TimerQueue} {id : Nat} :
      (∀ key t, held key = some t → t.id ≠ id) → TimerMove ⟨held, q⟩ ⟨held, q.cancel id⟩
  | exhausted {held : Nat → Option Timer} {q : TimerQueue} (exhausted : Bool) :
      TimerMove ⟨held, q⟩ ⟨held, { q with exhausted }⟩

namespace TimerBooks

/-- Every live timer is the one held at its place. A number that is held was given out, and is held
at one place only. -/
structure Sound (s : TimerBooks) : Prop where
  live_held : ∀ t ∈ s.queue.live, s.held t.key = some t
  nodup : s.queue.live.Nodup
  at_place : ∀ key t, s.held key = some t → t.key = key
  issued : ∀ key t, s.held key = some t → t.id ≤ s.queue.started
  unshared : ∀ i j t u, s.held i = some t → s.held j = some u → t.id = u.id → i = j

def Complete (s : TimerBooks) : Prop := ∀ key t, s.held key = some t → t ∈ s.queue.live

/-- A number that was given out, and that no place holds. -/
structure Dropped (s : TimerBooks) (id : Nat) : Prop where
  issued : id ≤ s.queue.started
  free : ∀ key t, s.held key = some t → t.id ≠ id

variable {s s' : TimerBooks} {id : Nat}

theorem held_of_update_none {held : Nat → Option Timer} {place key : Nat} {t : Timer}
    (after : Function.update held place none key = some t) : key ≠ place ∧ held key = some t := by
  by_cases here : key = place
  · subst here
    simp at after
  · rw [Function.update_of_ne here] at after
    exact ⟨here, after⟩

theorem held_of_update_some {held : Nat → Option Timer} {place key : Nat} {t u : Timer}
    (after : Function.update held place (some t) key = some u) :
    key = place ∧ u = t ∨ key ≠ place ∧ held key = some u := by
  by_cases here : key = place
  · subst here
    rw [Function.update_self] at after
    exact .inl ⟨rfl, (Option.some.inj after).symm⟩
  · rw [Function.update_of_ne here] at after
    exact .inr ⟨here, after⟩

theorem mem_cancel {q : TimerQueue} {t : Timer} :
    t ∈ (q.cancel id).live ↔ t ∈ q.live ∧ t.id ≠ id := by
  simp

theorem Sound.cancel (sound : s.Sound) (id : Nat) : Sound ⟨s.held, s.queue.cancel id⟩ where
  live_held t live := sound.live_held t (mem_cancel.1 live).1
  nodup := sound.nodup.filter _
  at_place := sound.at_place
  issued := sound.issued
  unshared := sound.unshared

theorem Sound.move_dropped {held : Nat → Option Timer} {q : TimerQueue} {place : Nat} {t : Timer}
    (sound : Sound ⟨held, q⟩) (at_place : held place = some t) :
    Sound ⟨Function.update held place none, q.cancel t.id⟩ := by
  constructor
  · intro u live
    obtain ⟨live, other⟩ := mem_cancel.1 live
    have held_u := sound.live_held u live
    have elsewhere : u.key ≠ place := by
      rintro rfl
      exact other (congrArg Timer.id (Option.some.inj (held_u.symm.trans at_place)))
    show Function.update held place none u.key = some u
    rw [Function.update_of_ne elsewhere]
    exact held_u
  · exact sound.nodup.filter _
  · intro key u after
    exact sound.at_place key u (held_of_update_none after).2
  · intro key u after
    exact sound.issued key u (held_of_update_none after).2
  · intro i j u v after_i after_j same
    exact sound.unshared i j u v (held_of_update_none after_i).2 (held_of_update_none after_j).2 same

theorem Sound.move_taken {held : Nat → Option Timer} {q : TimerQueue} {place : Nat} {t : Timer}
    (sound : Sound ⟨held, q⟩) (free : held place = none) (at_place : t.key = place)
    (fresh : t.id = q.started + 1) :
    Sound ⟨Function.update held place (some t),
      { q with started := q.started + 1, live := q.live ++ [t] }⟩ := by
  have older : ∀ key u, held key = some u → u.id ≠ t.id := by
    intro key u held_u
    have issued : u.id ≤ q.started := sound.issued key u held_u
    omega
  constructor
  · intro u live
    show Function.update held place (some t) u.key = some u
    rcases List.mem_append.1 live with live | new
    · have held_u : held u.key = some u := sound.live_held u live
      have elsewhere : u.key ≠ place := by
        rintro rfl
        rw [free] at held_u
        contradiction
      rw [Function.update_of_ne elsewhere]
      exact held_u
    · obtain rfl := List.mem_singleton.1 new
      rw [at_place, Function.update_self]
  · apply List.nodup_append.2
    refine ⟨sound.nodup, List.pairwise_singleton _ t, ?_⟩
    intro u live v new same
    obtain rfl := List.mem_singleton.1 new
    exact older u.key u (sound.live_held u live) (congrArg Timer.id same)
  · intro key u after
    rcases held_of_update_some after with ⟨rfl, rfl⟩ | ⟨-, held_u⟩
    · exact at_place
    · exact sound.at_place key u held_u
  · intro key u after
    show u.id ≤ q.started + 1
    rcases held_of_update_some after with ⟨-, rfl⟩ | ⟨-, held_u⟩
    · exact Nat.le_of_eq fresh
    · exact Nat.le_succ_of_le (sound.issued key u held_u)
  · intro i j u v after_i after_j same
    rcases held_of_update_some after_i with ⟨rfl, rfl⟩ | ⟨-, held_u⟩
    · rcases held_of_update_some after_j with ⟨rfl, -⟩ | ⟨-, held_v⟩
      · rfl
      · exact absurd same.symm (older j v held_v)
    · rcases held_of_update_some after_j with ⟨rfl, rfl⟩ | ⟨-, held_v⟩
      · exact absurd same (older i u held_u)
      · exact sound.unshared i j u v held_u held_v same

theorem Sound.move (sound : s.Sound) (move : TimerMove s s') : s'.Sound := by
  cases move with
  | dropped at_place => exact sound.move_dropped at_place
  | taken free at_place fresh => exact sound.move_taken free at_place fresh
  | @spent held q id free => exact sound.cancel id
  | @exhausted held q exhausted =>
    exact ⟨sound.live_held, sound.nodup, sound.at_place, sound.issued, sound.unshared⟩

theorem Complete.move (complete : s.Complete) (sound : s.Sound) (move : TimerMove s s') :
    s'.Complete := by
  cases move with
  | @dropped held q place t at_place =>
    intro key u after
    obtain ⟨elsewhere, held_u⟩ := held_of_update_none after
    refine mem_cancel.2 ⟨complete key u held_u, ?_⟩
    intro same
    exact elsewhere (sound.unshared key place u t held_u at_place same)
  | @taken held q place t free at_place fresh =>
    intro key u after
    rcases held_of_update_some after with ⟨-, rfl⟩ | ⟨-, held_u⟩
    · exact List.mem_append_right _ (List.mem_singleton_self u)
    · exact List.mem_append_left _ (complete key u held_u)
  | @spent held q id free =>
    intro key u held_u
    exact mem_cancel.2 ⟨complete key u held_u, free key u held_u⟩
  | exhausted exhausted => exact complete

theorem Dropped.move (dropped : s.Dropped id) (move : TimerMove s s') : s'.Dropped id := by
  cases move with
  | dropped at_place =>
    refine ⟨dropped.issued, ?_⟩
    intro key u after
    exact dropped.free key u (held_of_update_none after).2
  | @taken held q place t free at_place fresh =>
    have issued : id ≤ q.started := dropped.issued
    refine ⟨Nat.le_succ_of_le issued, ?_⟩
    intro key u after
    rcases held_of_update_some after with ⟨-, rfl⟩ | ⟨-, held_u⟩
    · omega
    · exact dropped.free key u held_u
  | spent free => exact ⟨dropped.issued, dropped.free⟩
  | exhausted exhausted => exact ⟨dropped.issued, dropped.free⟩

theorem Sound.moves (sound : s.Sound) (moves : ReflTransGen TimerMove s s') : s'.Sound := by
  induction moves with
  | refl => exact sound
  | tail _ move ih => exact ih.move move

theorem Complete.moves (complete : s.Complete) (sound : s.Sound)
    (moves : ReflTransGen TimerMove s s') : s'.Complete := by
  induction moves with
  | refl => exact complete
  | tail first move ih => exact ih.move (sound.moves first) move

theorem Dropped.moves (dropped : s.Dropped id) (moves : ReflTransGen TimerMove s s') :
    s'.Dropped id := by
  induction moves with
  | refl => exact dropped
  | tail _ move ih => exact ih.move move

/-- Where a timer is dropped, no other place holds its number. -/
theorem Sound.dropped (sound : s.Sound) {place : Nat} {t : Timer}
    (at_place : s.held place = some t) :
    Dropped ⟨Function.update s.held place none, s.queue.cancel t.id⟩ t.id where
  issued := sound.issued place t at_place
  free := by
    intro key u after same
    obtain ⟨elsewhere, held_u⟩ := held_of_update_none after
    exact elsewhere (sound.unshared key place u t held_u at_place same)

end TimerBooks

end Keypad
