import Keypad.Tracker.Table

namespace Keypad

namespace Session

def totalUs (s : Session) : Nat := s.workUs.toNat + s.meetingUs.toNat

def SameTime (s s' : Session) : Prop := s'.workUs = s.workUs ∧ s'.meetingUs = s.meetingUs

theorem SameTime.refl (s : Session) : s.SameTime s := ⟨rfl, rfl⟩

theorem SameTime.trans {s s' s'' : Session} (first : s.SameTime s') (second : s'.SameTime s'') :
    s.SameTime s'' := ⟨second.1.trans first.1, second.2.trans first.2⟩

theorem SameTime.totalUs_eq {s s' : Session} (same : s.SameTime s') : s'.totalUs = s.totalUs := by
  obtain ⟨work, meeting⟩ := same
  rw [totalUs, totalUs, work, meeting]

/-- A session after a tracked tick. One counter counts on, that of work where both could. -/
def Counted (s s' : Session) : Prop :=
  if s.trackingWork then s'.workUs.toNat = s.workUs.toNat + 250000 ∧ s'.meetingUs = s.meetingUs
  else s'.workUs = s.workUs ∧ s'.meetingUs.toNat = s.meetingUs.toNat + 250000

theorem Counted.totalUs_eq {s s' : Session} (counted : s.Counted s') :
    s'.totalUs = s.totalUs + 250000 := by
  unfold Counted at counted
  cases working : s.trackingWork with
  | true =>
    rw [working, if_pos rfl] at counted
    obtain ⟨work, meeting⟩ := counted
    rw [totalUs, totalUs, work, meeting]
    omega
  | false =>
    rw [working, if_neg Bool.false_ne_true] at counted
    obtain ⟨work, meeting⟩ := counted
    rw [totalUs, totalUs, work, meeting]
    omega

theorem Counted.sameTime {s s' s'' : Session} (counted : s.Counted s') (same : s'.SameTime s'') :
    s.Counted s'' := by
  unfold Counted at counted ⊢
  rw [same.1, same.2]
  exact counted

end Session

namespace SessionTable

variable {t t' t'' : SessionTable}

theorem current_eq (within : t.active.toNat < maxSessions) :
    t.current = t.sessions[t.active.toNat] := by
  simp [current, within]

theorem current_setCurrent (within : t.active.toNat < maxSessions) (s : Session) :
    (t.setCurrent s).current = s := by
  simp [current, setCurrent, within]

theorem setCurrent_of_not_within (outside : ¬ t.active.toNat < maxSessions) (s : Session) :
    t.setCurrent s = t := by
  have same : t.sessions.setIfInBounds t.active.toNat s = t.sessions := by
    apply Vector.ext
    intro i within
    rw [Vector.getElem_setIfInBounds, if_neg (by omega)]
  rw [setCurrent, same]

theorem setCurrent_setCurrent (t : SessionTable) (s s' : Session) :
    (t.setCurrent s).setCurrent s' = t.setCurrent s' := by
  have same : (t.sessions.setIfInBounds t.active.toNat s).setIfInBounds t.active.toNat s' =
      t.sessions.setIfInBounds t.active.toNat s' := by
    apply Vector.ext
    intro i within
    simp only [Vector.getElem_setIfInBounds]
    split <;> rfl
  simp only [setCurrent, same]

theorem setCurrent_current (t : SessionTable) : t.setCurrent t.current = t := by
  have same : t.sessions.setIfInBounds t.active.toNat t.current = t.sessions := by
    apply Vector.ext
    intro i within
    rw [Vector.getElem_setIfInBounds]
    split
    · next here =>
      subst here
      exact current_eq within
    · rfl
  rw [setCurrent, same]

theorem sessions_setCurrent_of_ne {i : Nat} (within : i < maxSessions)
    (other : i ≠ t.active.toNat) (s : Session) :
    (t.setCurrent s).sessions[i] = t.sessions[i] := by
  simp only [setCurrent, Vector.getElem_setIfInBounds, if_neg (Ne.symm other)]

/-- A table whose session was changed, but for its counters. -/
inductive Retouched (t : SessionTable) : SessionTable → Prop where
  | mk (s : Session) : t.current.SameTime s → Retouched t (t.setCurrent s)

namespace Retouched

theorem refl (t : SessionTable) : t.Retouched t := by
  have same := mk (t := t) t.current (.refl _)
  rwa [setCurrent_current] at same

theorem trans (first : t.Retouched t') (second : t'.Retouched t'') : t.Retouched t'' := by
  obtain ⟨s, same⟩ := first
  obtain ⟨s', same'⟩ := second
  by_cases within : t.active.toNat < maxSessions
  · rw [current_setCurrent within] at same'
    rw [setCurrent_setCurrent]
    exact .mk s' (same.trans same')
  · rw [setCurrent_of_not_within within s] at same' ⊢
    exact .mk s' same'

theorem magic_eq (retouched : t.Retouched t') : t'.magic = t.magic := by
  obtain ⟨s, same⟩ := retouched
  rfl

theorem active_eq (retouched : t.Retouched t') : t'.active = t.active := by
  obtain ⟨s, same⟩ := retouched
  rfl

end Retouched

/-- Tables that track the same session, with all counters the same. -/
structure SameTimes (t t' : SessionTable) : Prop where
  active : t'.active = t.active
  sessions :
    ∀ i : Fin maxSessions,
      (getElem t.sessions i.val i.isLt).SameTime (getElem t'.sessions i.val i.isLt)

theorem SameTimes.refl (t : SessionTable) : t.SameTimes t := ⟨rfl, fun _ => .refl _⟩

theorem SameTimes.trans (first : t.SameTimes t') (second : t'.SameTimes t'') : t.SameTimes t'' :=
  ⟨second.active.trans first.active, fun i => (first.sessions i).trans (second.sessions i)⟩

theorem SameTimes.current (same : t.SameTimes t') (within : t.active.toNat < maxSessions) :
    t.current.SameTime t'.current := by
  have within' : t'.active.toNat < maxSessions := same.active ▸ within
  have session := same.sessions ⟨_, within⟩
  rw [current_eq within, current_eq within']
  simp only [same.active]
  exact session

theorem Retouched.sameTimes (retouched : t.Retouched t') : t.SameTimes t' := by
  refine ⟨retouched.active_eq, ?_⟩
  obtain ⟨s, same⟩ := retouched
  intro i
  by_cases here : i.val = t.active.toNat
  · have within : t.active.toNat < maxSessions := here ▸ i.isLt
    have after := current_setCurrent within s
    rw [current_eq within] at same
    rw [current_eq (t := t.setCurrent s) within] at after
    simp only [here]
    exact after.symm ▸ same
  · rw [sessions_setCurrent_of_ne i.isLt here]
    exact .refl _

structure CountsTick (t t' : SessionTable) : Prop where
  active : t'.active = t.active
  counted : t.current.Counted t'.current
  others :
    ∀ i : Fin maxSessions, i.val ≠ t.active.toNat →
      (getElem t.sessions i.val i.isLt).SameTime (getElem t'.sessions i.val i.isLt)

theorem CountsTick.setCurrent {s : Session} (within : t.active.toNat < maxSessions)
    (counted : t.current.Counted s) : t.CountsTick (t.setCurrent s) := by
  refine ⟨rfl, ?_, ?_⟩
  · rwa [current_setCurrent within]
  · intro i other
    rw [sessions_setCurrent_of_ne i.isLt other]
    exact .refl _

theorem active_opened (t : SessionTable) (date : DateTime) :
    (t.opened date).active = (t.active + 1) % UInt32.ofNat maxSessions := rfl

theorem active_opened_lt (t : SessionTable) (date : DateTime) :
    (t.opened date).active.toNat < maxSessions := by
  rw [active_opened, UInt32.toNat_mod]
  exact Nat.mod_lt _ (by decide)

theorem current_opened (t : SessionTable) (date : DateTime) : (t.opened date).current = { date } :=
  current_setCurrent (t := { t with active := (t.active + 1) % UInt32.ofNat maxSessions })
    (active_opened_lt t date) { date }

theorem toNat_active_opened (within : t.active.toNat < maxSessions) (date : DateTime) :
    (t.opened date).active.toNat = (t.active.toNat + 1) % maxSessions := by
  have one : (1 : UInt32).toNat = 1 := rfl
  have count : (UInt32.ofNat maxSessions).toNat = maxSessions := rfl
  have room : t.active.toNat + 1 < 2 ^ 32 := by
    simp only [maxSessions] at within
    omega
  rw [active_opened, UInt32.toNat_mod, UInt32.toNat_add, one, count, Nat.mod_eq_of_lt room]

theorem sessions_opened (within : t.active.toNat < maxSessions) (date : DateTime) {i : Nat}
    (place : i < maxSessions) :
    (t.opened date).sessions[i] =
      if (t.active.toNat + 1) % maxSessions = i then { date } else t.sessions[i] := by
  rw [← toNat_active_opened within date]
  simp only [opened, setCurrent, Vector.getElem_setIfInBounds]
  rfl

/-- After so many openings, one behind the other: their counters are zero, and no other changed. -/
structure Opened (n : Nat) (t t' : SessionTable) : Prop where
  active : t'.active.toNat = (t.active.toNat + n) % maxSessions
  sessions :
    ∀ i : Fin maxSessions,
      if ∃ k < n, (t.active.toNat + k + 1) % maxSessions = i.val then
        (getElem t'.sessions i.val i.isLt).workUs = 0 ∧
          (getElem t'.sessions i.val i.isLt).meetingUs = 0
      else (getElem t.sessions i.val i.isLt).SameTime (getElem t'.sessions i.val i.isLt)

namespace Opened

theorem zero (within : t.active.toNat < maxSessions) (same : t.SameTimes t') : t.Opened 0 t' := by
  constructor
  · rw [same.active, Nat.add_zero, Nat.mod_eq_of_lt within]
  · intro i
    rw [if_neg (by simp)]
    exact same.sessions i

theorem of_sameTimes {n : Nat} (same : t.SameTimes t') (opened : t'.Opened n t'') :
    t.Opened n t'' := by
  constructor
  · rw [opened.active, same.active]
  · intro i
    have later := opened.sessions i
    rw [same.active] at later
    split
    · next zeroed => rwa [if_pos zeroed] at later
    · next kept =>
      rw [if_neg kept] at later
      exact (same.sessions i).trans later

theorem succ {n : Nat} {date : DateTime} (within : t.active.toNat < maxSessions)
    (opened : (t.opened date).Opened n t') : t.Opened (n + 1) t' := by
  have first := toNat_active_opened within date
  have moved : ∀ k, ((t.opened date).active.toNat + k) % maxSessions =
      (t.active.toNat + (k + 1)) % maxSessions := by
    intro k
    rw [first, Nat.mod_add_mod, Nat.add_assoc, Nat.add_comm 1 k]
  constructor
  · rw [opened.active, moved]
  · intro i
    have later := opened.sessions i
    simp only [Nat.add_assoc, moved, sessions_opened within date i.isLt] at later ⊢
    -- A session that is opened later on has zeros from there; the first opening concerns the
    -- others.
    by_cases zeroed_later : ∃ k < n, (t.active.toNat + (k + 1 + 1)) % maxSessions = i.val
    · obtain ⟨k, small, place⟩ := zeroed_later
      rw [if_pos ⟨k, small, place⟩] at later
      rw [if_pos ⟨k + 1, Nat.succ_lt_succ small, place⟩]
      exact later
    · rw [if_neg zeroed_later] at later
      by_cases here : (t.active.toNat + 1) % maxSessions = i.val
      · rw [if_pos here] at later
        rw [if_pos ⟨0, Nat.succ_pos n, here⟩]
        exact later
      · rw [if_neg here] at later
        rw [if_neg]
        · exact later
        · rintro ⟨_ | k, small, place⟩
          · exact here place
          · exact zeroed_later ⟨k, Nat.lt_of_succ_lt_succ small, place⟩

end Opened

end SessionTable

end Keypad
