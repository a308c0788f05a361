import Keypad.Proofs.Tracker.Commands

namespace Keypad

def usPerTick : Nat := 250000

namespace Session

variable {s : Session}

theorem trackedMs?_isSome_iff : s.trackedMs?.isSome = true ↔ s.totalUs < UInt64.size := by
  rw [trackedMs?, Option.isSome_map, totalUs]
  cases sum : Micros.after? s.workUs s.meetingUs.toNat with
  | none =>
    have full := Micros.after?_eq_none_iff.1 sum
    exact iff_of_false Bool.false_ne_true (Nat.not_lt.2 full)
  | some us =>
    have exact_sum := Micros.after?_eq_some_iff.1 sum
    exact iff_of_true rfl (exact_sum ▸ us.toNat_lt_size)

theorem ticked?_isSome (room : s.totalUs + usPerTick < UInt64.size) : s.ticked?.isSome = true := by
  have us : (tickMs * usPerMs).toNat = usPerTick := rfl
  rw [totalUs] at room
  unfold ticked?
  rw [us]
  split
  · cases later : Micros.after? s.workUs usPerTick with
    | none =>
      have full := Micros.after?_eq_none_iff.1 later
      omega
    | some us => rfl
  · split
    · cases later : Micros.after? s.meetingUs usPerTick with
      | none =>
        have full := Micros.after?_eq_none_iff.1 later
        omega
      | some us => rfl
    · rfl

end Session

namespace SessionTable

variable {t t' : SessionTable} {us us' : Nat}

def Room (us : Nat) (t : SessionTable) : Prop :=
  ∀ i : Fin maxSessions, (getElem t.sessions i.val i.isLt).totalUs + us < UInt64.size

namespace Room

theorem mono (room : t.Room us) (less : us' ≤ us) : t.Room us' := by
  intro i
  have within := room i
  omega

theorem lt (room : t.Room us) : us < UInt64.size := by
  have within := room ⟨0, by decide⟩
  omega

theorem current (room : t.Room us) (within : t.active.toNat < maxSessions) :
    t.current.totalUs + us < UInt64.size := by
  rw [current_eq within]
  exact room ⟨_, within⟩

theorem sameTimes (room : t.Room us) (same : t.SameTimes t') : t'.Room us := by
  intro i
  rw [(same.sessions i).totalUs_eq]
  exact room i

theorem retouched (room : t.Room us) (retouched : t.Retouched t') : t'.Room us :=
  room.sameTimes retouched.sameTimes

theorem factory (small : us < UInt64.size) : SessionTable.factory.Room us := by
  intro i
  have empty : (getElem SessionTable.factory.sessions i.val i.isLt).totalUs = 0 := by
    simp only [SessionTable.factory, Vector.getElem_replicate]
    rfl
  rw [empty]
  omega

theorem openedTimes {n : Nat} (room : t.Room us) (opened : t.Opened n t') : t'.Room us := by
  intro i
  have session := opened.sessions i
  have small := room.lt
  split at session
  · have empty : (getElem t'.sessions i.val i.isLt).totalUs = 0 := by
      rw [Session.totalUs, session.1, session.2]
      rfl
    omega
  · rw [session.totalUs_eq]
    exact room i

theorem opened (room : t.Room us) (within : t.active.toNat < maxSessions) (date : DateTime) :
    (t.opened date).Room us :=
  room.openedTimes (.succ within (.zero (t.active_opened_lt date) (.refl _)))

/-- A tick takes its time from the room that there is. -/
theorem countsTick (room : t.Room (usPerTick + us)) (within : t.active.toNat < maxSessions)
    (counts : t.CountsTick t') : t'.Room us := by
  intro i
  have before := room i
  by_cases here : i.val = t.active.toNat
  · have more := counts.counted.totalUs_eq
    have place : t'.active.toNat = i.val := by rw [counts.active, here]
    have within' : t'.active.toNat < maxSessions := place ▸ i.isLt
    rw [current_eq within, current_eq within'] at more
    simp only [place, ← here] at more
    rw [more]
    unfold usPerTick at before
    omega
  · rw [(counts.others i here).totalUs_eq]
    omega

end Room

end SessionTable

namespace Tracker

variable {g : Geometry} {d d' : Device g} {n : Nat}

/-- A tick that counts needs room for itself in the session, and nothing else. -/
theorem exists_counts (tracked : tracks d = true)
    (room : d.tracker.table.current.totalUs + usPerTick < UInt64.size) :
    ∃ s ms d', tick d = (.ok (), d') ∧ Counts d s ms d' := by
  obtain ⟨s, ticked⟩ := Option.isSome_iff_exists.1 (Session.ticked?_isSome room)
  have total := (Session.counted_of_ticked (Bool.and_eq_true_iff.1 tracked).2 ticked).totalUs_eq
  have fits : s.totalUs < UInt64.size := by rwa [total]
  obtain ⟨ms, sum⟩ := Option.isSome_iff_exists.1 (Session.trackedMs?_isSome_iff.2 fits)
  exact ⟨s, ms, tick_of_tracked tracked ticked sum⟩

theorem Counts.room {s : Session} {ms : UInt64} (counts : Counts d s ms d') :
    d.tracker.table.current.totalUs + usPerTick < UInt64.size := by
  have tracking := (Bool.and_eq_true_iff.1 counts.tracked).2
  have fits := Session.trackedMs?_isSome_iff.1 (Option.isSome_of_eq_some counts.total)
  rwa [(Session.counted_of_ticked tracking counts.ticked).totalUs_eq] at fits

theorem tracked_ticks (n : Nat) (tracked : tracks d = true)
    (within : d.tracker.table.active.toNat < maxSessions)
    (room : d.tracker.table.current.totalUs + usPerTick * n < UInt64.size) :
    ∃ d', Bench.ticks tick n d = (.ok (), d') ∧
      d'.tracker.table.current.totalUs = d.tracker.table.current.totalUs + usPerTick * n := by
  induction n generalizing d with
  | zero => exact ⟨d, rfl, rfl⟩
  | succ n ih =>
    rw [Nat.mul_succ] at room ⊢
    obtain ⟨s, ms, between, ticks, counts⟩ := exists_counts tracked (by omega)
    have total : between.tracker.table.current.totalUs =
        d.tracker.table.current.totalUs + usPerTick := counts.totalUs_eq within
    have within' : between.tracker.table.active.toNat < maxSessions := by
      rw [counts.table]
      exact within
    obtain ⟨d', rest, more⟩ := ih (counts.tracks within) within' (by rw [total]; omega)
    refine ⟨d', ?_, by rw [more, total]; omega⟩
    rw [Bench.ticks, ticks]
    exact rest

theorem tick_passes_iff (d : Device g) :
    (tick d).1 = .ok () ↔
      (tracks d = true → d.tracker.table.current.totalUs + usPerTick < UInt64.size) := by
  constructor
  · intro passes tracked
    obtain ⟨idle, -⟩ | failed | ⟨s, ms, d', -, counts⟩ := tick_counts d
    · simp [tracked] at idle
    · simp [failed] at passes
    · exact counts.room
  · intro room
    cases tracked : tracks d with
    | false => rw [tick_of_idle tracked]
    | true =>
      obtain ⟨s, ms, d', ticks, -⟩ := exists_counts tracked (room tracked)
      rw [ticks]

theorem Opens.room {us : Nat} (opens : Opens d d') (room : d.tracker.table.Room us)
    (within : d.tracker.table.active.toNat < maxSessions) :
    d'.tracker.table.Room us ∧ d'.tracker.table.active.toNat < maxSessions := by
  obtain ⟨⟨t, retouched, saves⟩, -⟩ := opens
  have within_t : t.active.toNat < maxSessions := retouched.active_eq ▸ within
  rw [saves.tracker_eq]
  exact ⟨(room.retouched retouched).opened within_t d.today, t.active_opened_lt d.today⟩

theorem Answers.room {events : List ButtonEvent} {us : Nat} (answers : Answers d events d')
    (room : d.tracker.table.Room us) (within : d.tracker.table.active.toNat < maxSessions) :
    d'.tracker.table.Room us := by
  induction answers with
  | nil => exact room
  | cons pressed rest ih =>
    cases pressed with
    | retouched _ retouches =>
      exact ih (room.retouched retouches.table) (retouches.table.active_eq ▸ within)
    | opened _ _ opens =>
      obtain ⟨later, within'⟩ := opens.room room within
      exact ih later within'

theorem Ticked.active_eq (ticked : Ticked d d') :
    d'.tracker.table.active = d.tracker.table.active := by
  cases ticked with
  | idle _ same => rw [same]
  | counted s _ _ _ tracker =>
    rw [tracker]
    rfl
  | saved s _ _ _ saves =>
    rw [saves.tracker_eq]
    rfl

theorem Ticked.room {us : Nat} (ticked : Ticked d d')
    (room : d.tracker.table.Room (usPerTick + us))
    (within : d.tracker.table.active.toNat < maxSessions) : d'.tracker.table.Room us := by
  cases ticked with
  | idle _ same =>
    rw [same]
    exact room.mono (Nat.le_add_left ..)
  | counted s _ counted _ tracker =>
    rw [tracker]
    exact room.countsTick within (.setCurrent within counted)
  | saved s _ counted _ saves =>
    rw [saves.tracker_eq]
    exact room.countsTick within (.setCurrent within counted)

/-- A tracker on which so many ticks can overflow no counter. Ticks count only while it runs. -/
structure Headroom (n : Nat) (d : Device g) : Prop where
  within : d.tracker.table.active.toNat < maxSessions
  sums : d.tracker.table.Room 0
  room : d.tracker.running = true → d.tracker.table.Room (usPerTick * n)

namespace Headroom

theorem mono {m : Nat} (head : Headroom n d) (less : m ≤ n) : Headroom m d :=
  ⟨head.within, head.sums,
    fun running => (head.room running).mono (Nat.mul_le_mul_left usPerTick less)⟩

theorem of_tracker_eq (head : Headroom n d) (same : d'.tracker = d.tracker) : Headroom n d' := by
  obtain ⟨within, sums, room⟩ := head
  rw [← same] at within sums room
  exact ⟨within, sums, room⟩

theorem retouches (head : Headroom n d) (retouches : Retouches d d') : Headroom n d' where
  within := retouches.table.active_eq ▸ head.within
  sums := head.sums.retouched retouches.table
  room running := (head.room (retouches.running ▸ running)).retouched retouches.table

theorem opens (head : Headroom n d) (opens : Opens d d') : Headroom n d' := by
  obtain ⟨sums, within⟩ := opens.room head.sums head.within
  have same : d'.tracker.running = d.tracker.running := by
    obtain ⟨⟨_, _, saves⟩, _⟩ := opens
    rw [saves.tracker_eq]
  exact ⟨within, sums, fun running => (opens.room (head.room (same ▸ running)) head.within).1⟩

theorem pressed {event : ButtonEvent} (head : Headroom n d) (pressed : Pressed d event d') :
    Headroom n d' := by
  cases pressed with
  | retouched _ retouches => exact head.retouches retouches
  | opened _ _ opens => exact head.opens opens

theorem showHours_passes (head : Headroom n d) : (showHours d).1 = .ok () := by
  have room := Session.trackedMs?_isSome_iff.2 (head.sums.current head.within)
  obtain ⟨ms, sum⟩ := Option.isSome_iff_exists.1 room
  simp only [showHours, sum]
  split <;> rfl

theorem press_passes (head : Headroom n d) (event : ButtonEvent) :
    (press d event).1 = .ok () := by
  have dated := head.retouches (.dateSession d)
  simp only [press]
  split
  · split
    · rfl
    · exact dated.showHours_passes
  · split
    · rfl
    · split
      · rfl
      · split <;> rfl

theorem pressAll (head : Headroom n d) (events : List ButtonEvent) :
    (pressAll d events).1 = .ok () ∧ Headroom n (pressAll d events).2 := by
  induction events generalizing d with
  | nil => exact ⟨rfl, head⟩
  | cons event rest ih =>
    have passes := head.press_passes event
    have later := head.pressed (press_pressed d event)
    rw [Tracker.pressAll]
    generalize press d event = r at passes later ⊢
    obtain ⟨_ | _, between⟩ := r
    · contradiction
    · exact ih later

theorem handle (head : Headroom n d) : (handle d).1 = .ok () ∧ Headroom n (handle d).2 :=
  (head.retouches (drain_retouches d)).pressAll _

theorem tick_passes (head : Headroom (n + 1) d) : (tick d).1 = .ok () := by
  refine (tick_passes_iff d).2 fun tracked => ?_
  have room := (head.room (Bool.and_eq_true_iff.1 tracked).1).current head.within
  rw [Nat.mul_succ] at room
  omega

theorem ticked (head : Headroom (n + 1) d) (ticked : Ticked d d') : Headroom n d' := by
  cases running : d.tracker.running with
  | true =>
    have room := head.room running
    rw [Nat.mul_succ, Nat.add_comm] at room
    have later := ticked.room room head.within
    exact ⟨ticked.active_eq ▸ head.within, later.mono (Nat.zero_le _), fun _ => later⟩
  | false =>
    cases ticked with
    | idle _ same =>
      rw [same]
      exact head.mono (Nat.le_succ n)
    | counted s tracked | saved s tracked => simp [tracks, running] at tracked

theorem tick (head : Headroom (n + 1) d) : (tick d).1 = .ok () ∧ Headroom n (tick d).2 := by
  refine ⟨head.tick_passes, ?_⟩
  cases tick_cases d with
  | inl ticked => exact head.ticked ticked
  | inr same =>
    rw [same]
    exact head.mono (Nat.le_succ n)

theorem ticks {tick : Device g → Except CounterOverflow Unit × Device g}
    (ticked : ∀ d n, Headroom (n + 1) d → (tick d).1 = .ok () ∧ Headroom n (tick d).2)
    (times : Nat) (head : Headroom (times + n) d) :
    (Bench.ticks tick times d).1 = .ok () ∧ Headroom n (Bench.ticks tick times d).2 := by
  induction times generalizing d with
  | zero => exact ⟨rfl, by rwa [Nat.zero_add] at head⟩
  | succ times ih =>
    have first := ticked d (times + n) (by rwa [Nat.succ_add] at head)
    rw [Bench.ticks]
    generalize tick d = r at first ⊢
    obtain ⟨_ | _, between⟩ := r
    · exact absurd first.1 (by simp)
    · exact ih first.2

theorem start (within : (load d).tracker.table.active.toNat < maxSessions)
    (room : (load d).tracker.table.Room (usPerTick * n)) : Headroom n (start d) := by
  obtain ⟨e, retouches, starts⟩ := start_retouches d
  rw [starts]
  have later := room.retouched retouches.table
  exact ⟨retouches.table.active_eq ▸ within, later.mono (Nat.zero_le _), fun _ => later⟩

theorem factoryReset (head : Headroom n d) : Headroom n (factoryReset d) where
  within := show SessionTable.factory.active.toNat < maxSessions by decide
  sums := .factory (by decide)
  room running := .factory (head.room running).lt

theorem boot (store : Store g) (input : Input) (longPressMs : UInt32) (board : List ButtonConfig)
    (today : DateTime) : Headroom n (Device.boot store input longPressMs board today) where
  within := show SessionTable.factory.active.toNat < maxSessions by decide
  sums := .factory (by decide)
  room running := absurd running Bool.false_ne_true

theorem stop (head : Headroom n d) : Headroom n (stop d) :=
  ⟨head.within, head.sums, fun running => absurd running Bool.false_ne_true⟩

end Headroom

end Tracker

end Keypad
