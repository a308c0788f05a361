import Keypad.Proofs.Keys.Storing
import Keypad.Proofs.Tracker.Headroom

namespace Keypad

open Tracker (Retouches Saves Opens Pressed Ticked tracks)

structure SessionTable.AgreesBeside (t t' : SessionTable) : Prop where
  magic : t'.magic = t.magic
  active : t'.active = t.active
  mediumMs : t'.mediumMs = t.mediumMs
  longMs : t'.longMs = t.longMs
  others :
    ∀ i : Fin maxSessions, i.val ≠ t.active.toNat →
      getElem t'.sessions i.val i.isLt = getElem t.sessions i.val i.isLt

/-- A stored table that differs from the one in memory in the session being tracked only, and is
behind there by so many ticks. -/
inductive SessionTable.Trails (t : SessionTable) (ticks : Nat) : SessionTable → Prop where
  | mk (s : Session) :
      t.current.totalUs = s.totalUs + 250000 * ticks → Trails t ticks (t.setCurrent s)

namespace SessionTable.Trails

variable {t t' stored : SessionTable} {ticks : Nat}

theorem refl (t : SessionTable) : t.Trails 0 t := by
  have same : t.Trails 0 (t.setCurrent t.current) := .mk t.current rfl
  rwa [setCurrent_current] at same

theorem setCurrent {s : Session} (within : t.active.toNat < maxSessions)
    (trails : t.Trails ticks stored) (more : Nat)
    (total : s.totalUs = t.current.totalUs + 250000 * more) :
    (t.setCurrent s).Trails (ticks + more) stored := by
  obtain ⟨s', behind⟩ := trails
  rw [← setCurrent_setCurrent t s s']
  apply mk
  rw [current_setCurrent within, total, behind]
  omega

theorem retouched (within : t.active.toNat < maxSessions) (retouched : t.Retouched t')
    (trails : t.Trails ticks stored) : t'.Trails ticks stored := by
  obtain ⟨s, same⟩ := retouched
  exact trails.setCurrent within 0 same.totalUs_eq

theorem counted {s : Session} (within : t.active.toNat < maxSessions)
    (counted : t.current.Counted s) (trails : t.Trails ticks stored) :
    (t.setCurrent s).Trails (ticks + 1) stored :=
  trails.setCurrent within 1 counted.totalUs_eq

theorem of_retouched (within : t.active.toNat < maxSessions) (retouched : stored.Retouched t')
    (trails : t.Trails ticks stored) : t.Trails ticks t' := by
  obtain ⟨s, behind⟩ := trails
  obtain ⟨s', same⟩ := retouched
  rw [current_setCurrent within] at same
  rw [setCurrent_setCurrent]
  exact .mk s' (behind.trans (congrArg (· + _) same.totalUs_eq.symm))

theorem agrees (trails : t.Trails ticks stored) : t.AgreesBeside stored := by
  obtain ⟨s, behind⟩ := trails
  exact ⟨rfl, rfl, rfl, rfl, fun i other => sessions_setCurrent_of_ne i.isLt other s⟩

theorem total (within : t.active.toNat < maxSessions) (trails : t.Trails ticks stored) :
    t.current.totalUs = stored.current.totalUs + 250000 * ticks := by
  obtain ⟨s, behind⟩ := trails
  rw [current_setCurrent within, behind]

theorem room {us : Nat} (within : t.active.toNat < maxSessions) (trails : t.Trails ticks stored)
    (room : t.Room us) : stored.Room us := by
  intro i
  have behind := trails.total within
  have agrees := trails.agrees
  have before := room i
  by_cases here : i.val = t.active.toNat
  · have within' : stored.active.toNat < maxSessions := agrees.active ▸ within
    rw [SessionTable.current_eq within, SessionTable.current_eq within'] at behind
    simp only [agrees.active, ← here] at behind
    omega
  · rw [agrees.others i here]
    exact before

end SessionTable.Trails

namespace Tracker

variable {g : Geometry} {d d' d'' : Device g} {ticks : Nat}

def journal (d : Device g) : List Flash.Entry := d.settings.store.chip.journal

def wrote (d d' : Device g) : Bool := decide ((journal d).length < (journal d').length)

theorem journal_of_store_eq (same : d'.settings.store = d.settings.store) :
    journal d' = journal d := congrArg (·.chip.journal) same

theorem wrote_of_store_eq (same : d'.settings.store = d.settings.store) : wrote d d' = false := by
  simp [wrote, journal_of_store_eq same]

structure Behind (d : Device g) (ticks : Nat) : Prop where
  healthy : d.settings.store.Healthy
  valid : d.tracker.table.magic = recordMagic
  within : d.tracker.table.active.toNat < maxSessions
  trails : d.tracker.table.Trails ticks (storedTable d)

theorem Behind.retouches (behind : Behind d ticks) (retouches : Retouches d d') :
    Behind d' ticks where
  healthy := retouches.store ▸ behind.healthy
  valid := retouches.table.magic_eq.trans behind.valid
  within := retouches.table.active_eq ▸ behind.within
  trails := by
    have trails := behind.trails.retouched behind.within retouches.table
    rwa [storedTable, ← retouches.store] at trails

theorem Saves.wrote {tracker : Tracker} (healthy : d.settings.store.Healthy)
    (saves : Saves d tracker d') : Tracker.wrote d d' = true := by
  rw [Tracker.wrote, journal, journal, (saves.saved healthy).journal_eq, decide_eq_true_iff]
  exact Nat.lt_add_of_pos_right (by decide : 0 < 2)

theorem Saves.behind {tracker : Tracker} (healthy : d.settings.store.Healthy)
    (saves : Saves d tracker d') (valid : tracker.table.magic = recordMagic)
    (within : tracker.table.active.toNat < maxSessions) : Behind d' 0 := by
  have saved := saves.saved healthy
  have stored : storedTable d' = d'.tracker.table := by
    rw [storedTable_of_saved within saved, saves.tracker_eq]
  constructor
  · exact saved.healthy
  · rw [saves.tracker_eq]
    exact valid
  · rw [saves.tracker_eq]
    exact within
  · rw [stored]
    exact .refl _

theorem Opens.behind (behind : Behind d ticks) (opens : Opens d d') :
    Behind d' 0 ∧ wrote d d' = true := by
  obtain ⟨⟨t, retouched, saves⟩, -⟩ := opens
  have within : (t.opened d.today).active.toNat < maxSessions := by
    rw [SessionTable.toNat_active_opened (retouched.active_eq ▸ behind.within)]
    exact Nat.mod_lt _ (by decide)
  have valid : (t.opened d.today).magic = recordMagic := retouched.magic_eq.trans behind.valid
  exact ⟨saves.behind behind.healthy valid within, saves.wrote behind.healthy⟩

theorem Answers.behind {events : List ButtonEvent} (answers : Answers d events d')
    (behind : Behind d ticks) :
    d'.tracker.intervals = d.tracker.intervals ∧
      (Behind d' ticks ∧ d'.settings.store = d.settings.store ∨
        Behind d' 0 ∧ wrote d d' = true) := by
  induction answers generalizing ticks with
  | nil d => exact ⟨rfl, .inl ⟨behind, rfl⟩⟩
  | cons pressed rest ih =>
    cases pressed with
    | retouched _ retouches =>
      obtain ⟨intervals, later⟩ := ih (behind.retouches retouches)
      rw [wrote, journal_of_store_eq retouches.store, ← wrote, retouches.store] at later
      exact ⟨intervals.trans retouches.intervals, later⟩
    | opened _ _ opens =>
      obtain ⟨saved, first⟩ := opens.behind behind
      obtain ⟨intervals, later⟩ := ih saved
      obtain ⟨⟨t, _, saves⟩, _⟩ := opens
      refine ⟨by rw [intervals, saves.tracker_eq], .inr ?_⟩
      -- The journal only grows, so that what is written first shows in the end.
      simp only [wrote, decide_eq_true_iff] at first later ⊢
      cases later with
      | inl same => exact ⟨same.1, (journal_of_store_eq same.2).symm ▸ first⟩
      | inr more => exact ⟨more.1, Nat.lt_trans first more.2⟩

theorem Started.behind (healthy : d.settings.store.Healthy) (started : Started d d') :
    Behind d' 0 := by
  cases started with
  | loaded valid retouched store =>
    have stored : storedTable d' = storedTable d := by rw [storedTable, store, storedTable]
    have within : (storedTable d).active.toNat < maxSessions := SessionTable.active_decode_lt _
    constructor
    · rwa [store]
    · exact retouched.magic_eq.trans valid
    · rw [retouched.active_eq]
      exact within
    · rw [stored]
      exact (SessionTable.Trails.refl _).retouched within retouched
  | reset invalid retouched store =>
    have saved := (healthy.save (by decide) .sessionTable SessionTable.factory).2
    rw [← store] at saved
    have within : SessionTable.factory.active.toNat < maxSessions := by decide
    constructor
    · exact saved.healthy
    · exact retouched.magic_eq
    · rw [retouched.active_eq]
      exact within
    · rw [storedTable_of_saved within saved]
      exact (SessionTable.Trails.refl _).retouched within retouched

theorem Ticked.behind (behind : Behind d ticks) (tracked : tracks d = true) (ticked : Ticked d d') :
    if d.tracker.intervals + 1 < 4 then
      Behind d' (ticks + 1) ∧ d'.settings.store = d.settings.store ∧
        d'.tracker.intervals = d.tracker.intervals + 1
    else Behind d' 0 ∧ wrote d d' = true ∧ d'.tracker.intervals = 0 := by
  cases ticked with
  | idle untracked same =>
    rw [tracked] at untracked
    contradiction
  | counted s _ counted room tracker store active =>
    rw [if_pos room]
    refine ⟨⟨?_, ?_, ?_, ?_⟩, store, ?_⟩
    · rw [store]
      exact behind.healthy
    · rw [tracker]
      exact behind.valid
    · rw [tracker]
      exact behind.within
    · rw [tracker, storedTable, store]
      exact behind.trails.counted behind.within counted
    · rw [tracker]
  | saved s _ counted full saves =>
    rw [if_neg (Nat.not_lt.2 full)]
    refine ⟨saves.behind behind.healthy behind.valid behind.within, saves.wrote behind.healthy, ?_⟩
    rw [saves.tracker_eq]

/-- A tracker that comes up where the sessions of another are stored finds them, and retouches
one. -/
theorem Behind.start_of_stored (behind : Behind d ticks) (healthy : d'.settings.store.Healthy)
    (stored : storedTable d' = storedTable d) :
    Behind (Tracker.start d') 0 ∧ (storedTable d).Retouched (Tracker.start d').tracker.table := by
  have valid : (storedTable d').magic = recordMagic := by
    rw [stored, behind.trails.agrees.magic]
    exact behind.valid
  obtain ⟨started, -⟩ := start_started healthy
  refine ⟨started.behind healthy, ?_⟩
  cases started with
  | loaded _ retouched _ =>
    rw [stored] at retouched
    exact retouched
  | reset invalid => exact absurd valid invalid

theorem storedTable_boot {store : Store g} (healthy : d.settings.store.Healthy)
    (attached : Store.attach d.settings.store.chip = .ok store) (input : Input)
    (longPressMs : UInt32) (board : List ButtonConfig) (today : DateTime) :
    (Device.boot store input longPressMs board today).settings.store.Healthy ∧
      storedTable (.boot store input longPressMs board today) = storedTable d := by
  have keeps := KeySettings.load_keeps_attached healthy attached input longPressMs board
  exact ⟨keeps.healthy, keeps.others SessionTable .sessionTable (by decide)⟩

theorem Behind.reboot (behind : Behind d ticks) :
    ∃ store, Store.attach d.settings.store.chip = .ok store ∧
      ∀ input longPressMs board today,
        (storedTable d).Retouched
          (Tracker.start (.boot store input longPressMs board today)).tracker.table := by
  obtain ⟨store, attached, -⟩ := Store.attach_of_fits d.settings.store.chip behind.healthy.fits
  refine ⟨store, attached, ?_⟩
  intro input longPressMs board today
  obtain ⟨healthy, stored⟩ :=
    storedTable_boot behind.healthy attached input longPressMs board today
  exact (behind.start_of_stored healthy stored).2

end Tracker

end Keypad
