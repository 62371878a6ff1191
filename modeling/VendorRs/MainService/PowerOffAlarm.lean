import Mathlib.Data.Finset.Basic
import VendorRs.Java.Lang
import VendorRs.Lib.Runs

/-!
# The alarm that wakes the phone when it is off

`alarmReceiver` keeps the next alarm clock in the RTC as well, a minute early, so that the phone can
boot in time. The RTC cannot be read back; all that is known of it is the time that was stored when
the last alarm was set. `mirrors_next_alarm` says that this is enough: after every change the RTC
holds the next alarm and nothing else.
-/

namespace VendorRs.PowerOffAlarm

open Java Runs

/-- `ACTION_SET_POWEROFF_ALARM` or `ACTION_CANCEL_POWEROFF_ALARM`, with the time it is about. -/
inductive Broadcast where
  | set (time : Int)
  | cancel (time : Int)
  deriving DecidableEq, Repr

structure State where
  /-- The preference `currentNextAlarm`, if it is set. -/
  currentNextAlarm : Option Int
  /-- Everything sent to the power-off alarm service, oldest first. -/
  sent : List Broadcast
  deriving DecidableEq

def State.start : State := ⟨none, []⟩

/-- What `getNextAlarmClock` returns. -/
structure AlarmClockInfo where
  triggerTime : Int
  /-- It is a `long`. -/
  isLong : -2 ^ 63 ≤ triggerTime ∧ triggerTime < 2 ^ 63
  deriving DecidableEq

/-- The preference as it is read, with `-1` for no alarm. -/
def State.stored (s : State) : Int := s.currentNextAlarm.getD (-1)

def sendBroadcast (s : State) (b : Broadcast) : State := { s with sent := s.sent ++ [b] }

/-- The receiver of `NEXT_ALARM_CLOCK_CHANGED`. -/
def alarmReceiver (s : State) (mNextAlarm : Option AlarmClockInfo) : State :=
  let currentNextAlarm := s.stored
  match mNextAlarm with
  | none =>
      if currentNextAlarm ≠ -1 then
        { sendBroadcast s (.cancel currentNextAlarm) with currentNextAlarm := some (-1) }
      else s
  | some mNextAlarm =>
      -- only one alarm at a time is kept in the RTC
      let s := if currentNextAlarm ≠ -1 then sendBroadcast s (.cancel currentNextAlarm) else s
      let nextAlarm := toLong (mNextAlarm.triggerTime - 60 * 1000)
      { sendBroadcast s (.set nextAlarm) with currentNextAlarm := some nextAlarm }

def step (s : State) (mNextAlarm : Option AlarmClockInfo) : Outcome State State :=
  .ok (alarmReceiver s mNextAlarm)

/-! ## The RTC -/

/-- What a broadcast does to the times in the RTC. -/
def apply (rtc : Finset Int) : Broadcast → Finset Int
  | .set time => insert time rtc
  | .cancel time => rtc.erase time

/-- The RTC after everything sent so far. -/
def State.rtc (s : State) : Finset Int := s.sent.foldl apply ∅

@[simp] theorem rtc_sendBroadcast (s : State) (b : Broadcast) :
    (sendBroadcast s b).rtc = apply s.rtc b := by
  simp [State.rtc, sendBroadcast]

/-- The times that are to be in the RTC, and the one that is to be stored. -/
def Mirrors (s : State) : Option AlarmClockInfo → Prop
  | none => s.rtc = ∅ ∧ s.stored = -1
  | some mNextAlarm =>
      s.rtc = {mNextAlarm.triggerTime - 60000} ∧ s.stored = mNextAlarm.triggerTime - 60000

/-- The receiver returns, with the alarm mirrored. -/
def StaysMirrored (s : State) (mNextAlarm : Option AlarmClockInfo) : Prop :=
  ∃ s', step s mNextAlarm = .ok s' ∧ Mirrors s' mNextAlarm

/-- The stored time is all there is in the RTC. -/
def Known (s : State) : Prop := s.rtc = if s.stored = -1 then ∅ else {s.stored}

variable {s : State}

theorem known_start : Known .start := rfl

/-- The old alarm is out of the RTC before a new one is set. -/
theorem Known.cancelled (h : Known s) :
    (if s.stored ≠ -1 then sendBroadcast s (.cancel s.stored) else s).rtc = ∅ := by
  unfold Known at h
  split
  · next hstored =>
      rw [if_neg hstored] at h
      rw [rtc_sendBroadcast, h]
      exact Finset.erase_singleton _
  · next hstored =>
      rw [if_pos (by simpa using hstored)] at h
      exact h

theorem Known.mirrors (h : Known s) {mNextAlarm : Option AlarmClockInfo}
    (hlate : ∀ a ∈ mNextAlarm, 60000 < a.triggerTime) :
    Mirrors (alarmReceiver s mNextAlarm) mNextAlarm := by
  have hcancelled := h.cancelled
  cases mNextAlarm with
  | none =>
      unfold alarmReceiver
      dsimp only
      split at hcancelled
      · next hstored =>
          rw [if_pos hstored]
          exact ⟨hcancelled, rfl⟩
      · next hstored =>
          rw [if_neg hstored]
          exact ⟨hcancelled, by simpa using hstored⟩
  | some mNextAlarm =>
      have hlong := mNextAlarm.isLong
      have hlate := hlate _ rfl
      have htime : toLong (mNextAlarm.triggerTime - 60 * 1000) = mNextAlarm.triggerTime - 60000 :=
        toLong_of_lt (by omega) (by omega)
      unfold alarmReceiver
      dsimp only
      rw [htime]
      refine ⟨?_, rfl⟩
      show (sendBroadcast _ _).rtc = _
      rw [rtc_sendBroadcast, hcancelled]
      rfl

/-- A stored time later than the sentinel is told from it. -/
theorem Mirrors.known {mNextAlarm : Option AlarmClockInfo}
    (hlate : ∀ a ∈ mNextAlarm, 60000 < a.triggerTime) (h : Mirrors s mNextAlarm) : Known s := by
  cases mNextAlarm with
  | none =>
      obtain ⟨hrtc, hstored⟩ := h
      rw [Known, hrtc, if_pos hstored]
  | some mNextAlarm =>
      obtain ⟨hrtc, hstored⟩ := h
      have hlate := hlate _ rfl
      rw [Known, hrtc, if_neg (by omega), hstored]

/-- **After every change of the next alarm clock, the RTC holds the time a minute before it and
nothing else, or nothing if there is none, and the stored value says which.** -/
theorem mirrors_next_alarm (alarms : List (Option AlarmClockInfo))
    (hlate : ∀ mNextAlarm ∈ alarms, ∀ a ∈ mNextAlarm, 60000 < a.triggerTime) :
    EveryStep step StaysMirrored .start alarms := by
  refine EveryStep.imp (P := Known) ?_ ?_ known_start (everyStep_of_forall_mem hlate)
  · rintro s mNextAlarm _ h hlate ⟨⟩
    exact (h.mirrors hlate).known hlate
  · intro s mNextAlarm h hlate
    exact ⟨_, rfl, h.mirrors hlate⟩

/-- An alarm set, set again, moved and removed twice. -/
theorem mirrors_next_alarm_moved :
    EveryStep step StaysMirrored .start
      [some ⟨90000, by decide⟩, some ⟨90000, by decide⟩, some ⟨70000, by decide⟩, none, none] :=
  mirrors_next_alarm _ (by decide)

end VendorRs.PowerOffAlarm
