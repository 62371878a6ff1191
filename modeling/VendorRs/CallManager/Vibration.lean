import VendorRs.CallManager.Recorder

/-!
# How far the pulses of a call are apart

`vibrate` does nothing while `areWeVibrating` is set, and has it reset 350 ms later. It posts that
reset even if it has done nothing. So more resets may be under way than pulses, and a reset takes
back the flag of whichever pulse is the latest when it runs: `overtaken` below.

Nothing else brings two pulses too close together, `pulses_apart_iff`. That needs all the resets
that are under way: those posted before the latest pulse, and those that were not.
-/

namespace VendorRs.CallManager

open Java Runs

/-! ## The vibrator -/

/-- What `vibrate` reads and writes. -/
structure Vibrator where
  areWeVibrating : Bool
  vibrations : List Nat
  looper : Looper Unit

def State.vibrator (s : State) : Vibrator := ⟨s.areWeVibrating, s.vibrations, s.looper⟩

/-- What `vibrate` does to the vibrator. -/
def Vibrator.vibrate (v : Vibrator) : Vibrator where
  areWeVibrating := true
  vibrations := if v.areWeVibrating then v.vibrations else v.vibrations ++ [v.looper.now]
  looper := v.looper.post 350 ()

/-- Two pulses are this far apart. -/
def Apart (pulses : List Nat) : Prop := pulses.Pairwise fun first second => first + 350 ≤ second

instance (pulses : List Nat) : Decidable (Apart pulses) :=
  inferInstanceAs (Decidable (pulses.Pairwise _))

/-- The latest pulse is over at this time, and the time until the next one may begin as well. -/
def Over (pulses : List Nat) (now : Nat) : Prop := ∀ last ∈ pulses.getLast?, last + 350 ≤ now

instance (pulses : List Nat) (now : Nat) : Decidable (Over pulses now) :=
  inferInstanceAs (Decidable (∀ _ ∈ pulses.getLast?, _))

/-- Of the resets that are under way, the `older` first ones were posted before the latest pulse;
if `overtaken`, one of these has run since then. -/
structure Vibrator.Inv (v : Vibrator) (older : Nat) (overtaken : Bool) : Prop where
  apart : Apart v.vibrations
  past : ∀ pulse ∈ v.vibrations, pulse ≤ v.looper.now
  due : ∀ reset ∈ v.looper.queue, v.looper.now ≤ reset.1 ∧ reset.1 ≤ v.looper.now + 350
  older_le : older ≤ v.looper.queue.length
  younger : ∀ reset ∈ v.looper.queue.drop older, Over v.vibrations reset.1
  guard : v.areWeVibrating = false → overtaken = false → Over v.vibrations v.looper.now
  cleared : overtaken = true → v.areWeVibrating = false

variable {v : Vibrator} {older ms now now' : Nat} {overtaken : Bool} {pulses : List Nat}
  {looper : Looper Unit}

theorem Vibrator.vibrate_of_guarded (h : v.areWeVibrating = true) :
    v.vibrate = { v with looper := v.looper.post 350 () } := by
  simp [Vibrator.vibrate, h]

theorem Vibrator.vibrate_of_free (h : v.areWeVibrating = false) :
    v.vibrate =
      { v with
        areWeVibrating := true
        vibrations := v.vibrations ++ [v.looper.now]
        looper := v.looper.post 350 () } := by
  simp [Vibrator.vibrate, h]

theorem Over.mono (h : Over pulses now) (hle : now ≤ now') : Over pulses now' := by
  intro last hlast
  exact Nat.le_trans (h last hlast) hle

/-- Only the latest pulse matters to the next one. -/
theorem apart_concat_iff (h : Apart pulses) : Apart (pulses ++ [now]) ↔ Over pulses now := by
  rcases List.eq_nil_or_concat' pulses with rfl | ⟨before, last, rfl⟩
  · simp [Apart, Over]
  · obtain ⟨-, -, hlast⟩ := List.pairwise_append.mp h
    constructor
    · intro hnext
      obtain ⟨-, -, hnow⟩ := List.pairwise_append.mp hnext
      intro last' hlast'
      exact hnow last' (List.mem_of_getLast? hlast') now (List.mem_singleton_self now)
    · intro hover
      apply List.pairwise_append.mpr
      refine ⟨h, List.pairwise_singleton _ _, ?_⟩
      intro pulse hpulse now' hnow'
      rw [List.mem_singleton.mp hnow']
      have hnow : last + 350 ≤ now := hover last (by simp)
      rcases List.mem_append.mp hpulse with hpulse | hpulse
      · have hle := hlast pulse hpulse last (List.mem_singleton_self last)
        omega
      · rw [List.mem_singleton.mp hpulse]
        exact hnow

/-- What is posted now is due last. -/
theorem Vibrator.Inv.queue_post (h : v.Inv older overtaken) :
    (v.looper.post 350 ()).queue = v.looper.queue ++ [(v.looper.now + 350, ())] :=
  Looper.enqueue_last fun reset hreset => (h.due reset hreset).2

theorem Vibrator.Inv.due_post (h : v.Inv older overtaken) :
    ∀ reset ∈ (v.looper.post 350 ()).queue,
      v.looper.now ≤ reset.1 ∧ reset.1 ≤ v.looper.now + 350 := by
  rw [h.queue_post]
  intro reset hreset
  rcases List.mem_append.mp hreset with hreset | hreset
  · exact h.due reset hreset
  · rw [List.mem_singleton.mp hreset]
    exact ⟨Nat.le_add_right _ _, Nat.le_refl _⟩

theorem Vibrator.Inv.over_next (h : v.Inv older overtaken) :
    Over v.vibrations (v.looper.now + 350) := by
  intro last hlast
  exact Nat.add_le_add_right (h.past last (List.mem_of_getLast? hlast)) 350

/-- A call that is suppressed posts its reset all the same. -/
theorem Vibrator.Inv.suppressed (h : v.Inv older overtaken) :
    Vibrator.Inv { v with looper := v.looper.post 350 () } older overtaken where
  apart := h.apart
  past := h.past
  due := h.due_post
  older_le := by
    show older ≤ (v.looper.post 350 ()).queue.length
    rw [h.queue_post, List.length_append]
    exact Nat.le_add_right_of_le h.older_le
  younger := by
    show ∀ reset ∈ (v.looper.post 350 ()).queue.drop older, _
    rw [h.queue_post, List.drop_append_of_le_length h.older_le]
    intro reset hreset
    rcases List.mem_append.mp hreset with hreset | hreset
    · exact h.younger reset hreset
    · rw [List.mem_singleton.mp hreset]
      exact h.over_next
  guard := h.guard
  cleared := h.cleared

/-- A pulse makes all the resets that are under way older ones. -/
theorem Vibrator.Inv.pulse (h : v.Inv older overtaken) (hover : Over v.vibrations v.looper.now) :
    Vibrator.Inv
      { v with
        areWeVibrating := true
        vibrations := v.vibrations ++ [v.looper.now]
        looper := v.looper.post 350 () }
      v.looper.queue.length false where
  apart := (apart_concat_iff h.apart).mpr hover
  past := by
    intro pulse hpulse
    rcases List.mem_append.mp hpulse with hpulse | hpulse
    · exact h.past pulse hpulse
    · exact Nat.le_of_eq (List.mem_singleton.mp hpulse)
  due := h.due_post
  older_le := by
    show v.looper.queue.length ≤ (v.looper.post 350 ()).queue.length
    rw [h.queue_post, List.length_append]
    exact Nat.le_add_right _ _
  younger := by
    show ∀ reset ∈ (v.looper.post 350 ()).queue.drop v.looper.queue.length, _
    rw [h.queue_post, List.drop_left]
    intro reset hreset last hlast
    obtain rfl : v.looper.now = last := by simpa using hlast
    rw [List.mem_singleton.mp hreset]
  guard := by simp
  cleared := by simp

/-- No reset is due before the time to which the clock goes on. -/
theorem Vibrator.Inv.wait (h : v.Inv older overtaken)
    (htimely : ∀ reset ∈ v.looper.queue, v.looper.now + ms ≤ reset.1) :
    Vibrator.Inv { v with looper := v.looper.wait ms } older overtaken where
  apart := h.apart
  past := by
    intro pulse hpulse
    exact Nat.le_add_right_of_le (h.past pulse hpulse)
  due := by
    intro reset hreset
    refine ⟨htimely reset hreset, ?_⟩
    exact Nat.le_trans (h.due reset hreset).2 (Nat.add_le_add_right (Nat.le_add_right _ _) 350)
  older_le := h.older_le
  younger := h.younger
  guard := by
    intro hguard hovertaken
    exact (h.guard hguard hovertaken).mono (Nat.le_add_right _ _)
  cleared := h.cleared

/-- A reset that was posted before the latest pulse comes too early for it, any other one late
enough. -/
theorem Vibrator.Inv.reset (h : v.Inv older overtaken)
    (hdeliver : v.looper.deliver = some ((), looper)) :
    Vibrator.Inv { v with areWeVibrating := false, looper := looper } (older - 1)
      (overtaken || older ≠ 0) := by
  obtain ⟨hnow, due, hdue, hqueue⟩ := Looper.deliver_eq_some hdeliver
  have hdues := h.due
  have holder := h.older_le
  have hyounger := h.younger
  rw [hqueue] at hdues holder hyounger
  obtain ⟨-, hrest⟩ := List.forall_mem_cons.mp hdues
  constructor
  · exact h.apart
  · rw [hnow]
    exact h.past
  · rw [hnow]
    exact hrest
  · rw [List.length_cons] at holder
    exact Nat.sub_le_of_le_add holder
  · cases older with
    | zero =>
        rw [List.drop_zero] at hyounger
        exact (List.forall_mem_cons.mp hyounger).2
    | succ older => exact hyounger
  · intro _ hovertaken
    rw [hnow]
    cases older with
    | zero =>
        have hown := hyounger (due, ()) (by simp)
        exact hown.mono hdue
    | succ older => simp at hovertaken
  · exact fun _ => rfl

/-! ## Which events reach the vibrator -/

/-- The start or the end of a call makes the manager call `vibrate`. -/
def CallEvent.vibrates (s : State) : CallEvent → Bool
  | .starting _ => s.areWeAllowedToVibrateDuringCalls
  | .ending _ => s.isAcallInProgress && s.areWeAllowedToVibrateDuringCalls

def CallsVibrate (s : State) (e : Event) : Prop := ∃ c ∈ callOf s e, c.vibrates s = true

variable {s s' : State} {e : Event} {p : Platform} {c : CallEvent}

theorem bind_vibrator {x : Outcome State State} {f : State → Outcome State State} {v : Vibrator}
    (hx : x.left.vibrator = v) (hf : ∀ s, s.vibrator = v → (f s).left.vibrator = v) :
    (x >>= f).left.vibrator = v := by
  cases x with
  | ok s => exact hf s hx
  | error y => exact hx

theorem onClose_vibrator : (onClose s).left.vibrator = s.vibrator := by
  obtain ⟨f, hflags⟩ := onClose_left s
  rw [hflags]
  rfl

theorem onRecorder_vibrator {f : Recorder → Recorder} :
    (onRecorder s f).vibrator = s.vibrator := by
  unfold onRecorder
  split <;> rfl

theorem startRecording_vibrator : (startRecording s p).left.vibrator = s.vibrator := by
  unfold startRecording
  split
  · rfl
  · dsimp only
    cases recordingFile p (newRecorder s).callRecordingDirectory (newRecorder s).callNumber with
    | error x => rfl
    | ok filepath =>
        have hfile : (onRecorder (newRecorder s) fun r =>
            { r with outputFile := some filepath }).vibrator = s.vibrator :=
          onRecorder_vibrator (s := newRecorder s)
        rw [leaving_ok, ok_bind]
        split
        · exact onRecorder_vibrator.trans hfile
        · exact onRecorder_vibrator.trans hfile
        · exact hfile
        · split
          · exact hfile
          · exact hfile

theorem stopRecorder_vibrator : (stopRecorder s p).left.vibrator = s.vibrator := by
  unfold stopRecorder
  split
  · split
    · rfl
    · exact onRecorder_vibrator
  · rfl

theorem stopRecording_vibrator : (stopRecording s p).left.vibrator = s.vibrator := by
  apply bind_vibrator stopRecorder_vibrator
  intro s' hs'
  split
  · exact onClose_vibrator.trans hs'
  · exact hs'

theorem vibrateIfAllowed_vibrator :
    (vibrateIfAllowed s).vibrator =
      if s.areWeAllowedToVibrateDuringCalls then s.vibrator.vibrate else s.vibrator := by
  unfold vibrateIfAllowed
  split
  · cases hguard : s.areWeVibrating <;>
      simp [vibrate, State.vibrator, Vibrator.vibrate, hguard]
  · rfl

theorem manageCallStarting_vibrator :
    (manageCallStarting s p).left.vibrator =
      if s.areWeAllowedToVibrateDuringCalls then s.vibrator.vibrate else s.vibrator := by
  have hvibrate : (vibrateIfAllowed { s with isAcallInProgress := true }).vibrator = _ :=
    vibrateIfAllowed_vibrator
  unfold manageCallStarting
  dsimp only
  split
  · exact hvibrate
  · split
    · exact startRecording_vibrator.trans hvibrate
    · exact hvibrate

theorem manageCallEnding_vibrator :
    (manageCallEnding s p).left.vibrator =
      if s.isAcallInProgress && s.areWeAllowedToVibrateDuringCalls then s.vibrator.vibrate
      else s.vibrator := by
  unfold manageCallEnding
  cases hcall : s.isAcallInProgress with
  | true =>
      have hvibrate : (vibrateIfAllowed { s with isAcallInProgress := false }).vibrator = _ :=
        vibrateIfAllowed_vibrator
      exact stopRecording_vibrator.trans hvibrate
  | false => rfl

/-- The start or the end of a call, at the vibrator. -/
theorem handle_vibrator :
    (c.handle s).left.vibrator = if c.vibrates s then s.vibrator.vibrate else s.vibrator := by
  cases c with
  | starting p => exact manageCallStarting_vibrator
  | ending p => exact manageCallEnding_vibrator

theorem step_of_callsVibrate (h : CallsVibrate s e) :
    (step s e).left.vibrator = s.vibrator.vibrate := by
  obtain ⟨c, hcall, hvibrates⟩ := h
  rw [step_of_call hcall, handle_vibrator, if_pos hvibrates]

/-- Apart from that, only resets and the clock reach the vibrator. -/
theorem step_of_not_callsVibrate (h : ¬ CallsVibrate s e) :
    (∃ ms, e = .wait ms ∧ step s e = .ok { s with looper := s.looper.wait ms }) ∨
    (∃ looper, e = .reset ∧ s.looper.deliver = some ((), looper) ∧
      step s e = .ok { s with looper := looper, areWeVibrating := false }) ∨
    (step s e).left.vibrator = s.vibrator := by
  cases hcall : callOf s e with
  | some c =>
      have hsilent : ¬ c.vibrates s = true := fun hvibrates => h ⟨c, hcall, hvibrates⟩
      right; right
      rw [step_of_call hcall, handle_vibrator, if_neg hsilent]
  | none =>
      apply (step_cases hcall).imp_right
      apply Or.imp_right
      rintro ⟨x, hstep⟩
      rw [hstep]
      rfl

/-- Only `vibrate` adds to the pulses. -/
theorem step_vibrations (h : ¬ CallsVibrate s e) :
    (step s e).left.vibrations = s.vibrations := by
  rcases step_of_not_callsVibrate h with ⟨ms, -, hstep⟩ | ⟨looper, -, -, hstep⟩ | hsame
  · rw [hstep]
    rfl
  · rw [hstep]
    rfl
  · exact congrArg Vibrator.vibrations hsame

/-! ## Runs -/

/-- The manager; how many of the resets under way were posted before the latest pulse, and whether
one of these has run since then. -/
structure Pulses where
  manager : State
  older : Nat
  overtaken : Bool

/-- The same after a step of the manager, which vibrates, or takes a reset from the queue, or does
neither. -/
def Pulses.next (s : Pulses) (manager : State) : Pulses :=
  if s.manager.vibrations.length < manager.vibrations.length then
    ⟨manager, s.manager.looper.queue.length, false⟩
  else if manager.looper.queue.length < s.manager.looper.queue.length then
    ⟨manager, s.older - 1, s.overtaken || s.older ≠ 0⟩
  else ⟨manager, s.older, s.overtaken⟩

def Pulses.step (s : Pulses) (e : Event) : Outcome Pulses Pulses :=
  (CallManager.step s.manager e).mapState s.next

/-- The service after it was connected, before any call. -/
def Pulses.connected (recordCall vibrateDuringCalls : Option Bool) (directory : Option String) :
    Pulses :=
  ⟨onServiceConnected (.created recordCall vibrateDuringCalls directory), 0, false⟩

/-- A reset runs when it is due: the clock does not go on past that time. -/
def Timely (s : Pulses) : Event → Prop
  | .wait ms => ∀ reset ∈ s.manager.looper.queue, s.manager.looper.now + ms ≤ reset.1
  | _ => True

/-- All pulses so far are far enough apart, even if the event ends with an exception. -/
def PulsesApart (s : Pulses) (e : Event) : Prop := Apart (s.step e).left.manager.vibrations

/-- Once a reset that was posted before the latest pulse has run after it, `vibrate` is not called
until that pulse is over. -/
def NotOvertaken (s : Pulses) (e : Event) : Prop :=
  CallsVibrate s.manager e → s.overtaken = true →
    Over s.manager.vibrations s.manager.looper.now

instance (s : Pulses) (e : Event) : Decidable (PulsesApart s e) :=
  inferInstanceAs (Decidable (Apart _))

instance (s : Pulses) : ∀ e, Decidable (Timely s e)
  | .wait _ => inferInstanceAs (Decidable (∀ reset ∈ s.manager.looper.queue, _))
  | .setRecordCall _ | .setVibrateDuringCalls _ | .setDirectory _ | .preciseCallState _ _ _
  | .phoneState _ _ | .newOutgoingCall _ | .reset | .destroy => inferInstanceAs (Decidable True)

def Pulses.Inv (s : Pulses) : Prop := s.manager.vibrator.Inv s.older s.overtaken

variable {s s' : Pulses} {manager : State}

@[simp] theorem next_manager : (s.next manager).manager = manager := by
  unfold Pulses.next
  split
  · rfl
  · split <;> rfl

theorem inv_connected_pulses (recordCall vibrateDuringCalls : Option Bool)
    (directory : Option String) :
    (Pulses.connected recordCall vibrateDuringCalls directory).Inv := by
  have hnew : Vibrator.Inv ⟨false, [], .empty 0⟩ 0 false := by
    constructor <;> simp [Apart, Over, Looper.empty]
  have hsame : (Pulses.connected recordCall vibrateDuringCalls directory).manager.vibrator =
      ⟨false, [], .empty 0⟩ := by
    unfold Pulses.connected onServiceConnected
    dsimp only
    split <;> rfl
  rw [Pulses.Inv, hsame]
  exact hnew

/-- Where nothing is added to the pulses, and nothing taken from the queue. -/
theorem next_of_same (hpulses : manager.vibrations = s.manager.vibrations)
    (hqueue : s.manager.looper.queue.length ≤ manager.looper.queue.length) :
    s.next manager = ⟨manager, s.older, s.overtaken⟩ := by
  unfold Pulses.next
  rw [hpulses, if_neg (Nat.lt_irrefl _), if_neg (Nat.not_lt.mpr hqueue)]

theorem Pulses.Inv.vibrate (h : s.Inv) (hvibrates : manager.vibrator = s.manager.vibrator.vibrate)
    (hover : s.manager.areWeVibrating = false → Over s.manager.vibrations s.manager.looper.now) :
    (s.next manager).Inv := by
  cases hguard : s.manager.areWeVibrating with
  | true =>
      rw [Vibrator.vibrate_of_guarded hguard] at hvibrates
      have hpulses : manager.vibrations = s.manager.vibrations :=
        congrArg Vibrator.vibrations hvibrates
      have hlooper : manager.looper = s.manager.looper.post 350 () :=
        congrArg Vibrator.looper hvibrates
      rw [next_of_same hpulses]
      · rw [Pulses.Inv, hvibrates]
        exact Vibrator.Inv.suppressed h
      · rw [hlooper]
        exact Nat.le_of_lt (Nat.lt_of_lt_of_eq (Nat.lt_succ_self _) Looper.length_enqueue.symm)
  | false =>
      rw [Vibrator.vibrate_of_free hguard] at hvibrates
      have hpulses : manager.vibrations = s.manager.vibrations ++ [s.manager.looper.now] :=
        congrArg Vibrator.vibrations hvibrates
      have hmore : s.manager.vibrations.length < manager.vibrations.length := by
        rw [hpulses, List.length_append]
        exact Nat.lt_succ_self _
      rw [Pulses.next, if_pos hmore, Pulses.Inv, hvibrates]
      exact Vibrator.Inv.pulse h (hover hguard)

theorem Pulses.Inv.runWait {ms : Nat} (h : s.Inv) (htimely : Timely s (.wait ms)) :
    (s.next { s.manager with looper := s.manager.looper.wait ms }).Inv := by
  have hsame : s.next { s.manager with looper := s.manager.looper.wait ms } =
      ⟨{ s.manager with looper := s.manager.looper.wait ms }, s.older, s.overtaken⟩ :=
    next_of_same rfl (Nat.le_refl _)
  rw [hsame]
  exact Vibrator.Inv.wait h htimely

theorem Pulses.Inv.runReset (h : s.Inv) {looper : Looper Unit}
    (hdeliver : s.manager.looper.deliver = some ((), looper)) :
    (s.next { s.manager with looper := looper, areWeVibrating := false }).Inv := by
  obtain ⟨-, due, -, hqueue⟩ := Looper.deliver_eq_some hdeliver
  have hless : looper.queue.length < s.manager.looper.queue.length := by
    rw [hqueue]
    exact Nat.lt_succ_self _
  rw [Pulses.next, if_neg (Nat.lt_irrefl _), if_pos hless]
  exact Vibrator.Inv.reset h hdeliver

/-- The latest pulse is over when the next one begins, except where an older reset has overtaken
it. -/
theorem Pulses.Inv.over (h : s.Inv) (hcall : CallsVibrate s.manager e) (hnot : NotOvertaken s e)
    (hguard : s.manager.areWeVibrating = false) :
    Over s.manager.vibrations s.manager.looper.now := by
  cases hovertaken : s.overtaken with
  | true => exact hnot hcall hovertaken
  | false => exact h.guard hguard hovertaken

theorem Pulses.Inv.step (h : s.Inv) (htimely : Timely s e) (hnot : NotOvertaken s e)
    (hok : s.step e = .ok s') : s'.Inv := by
  obtain ⟨manager, hmanager, rfl⟩ := Outcome.mapState_eq_ok.mp hok
  have hleft := Outcome.left_of_ok hmanager
  by_cases hcall : CallsVibrate s.manager e
  · apply h.vibrate
    · rw [← hleft]
      exact step_of_callsVibrate hcall
    · exact h.over hcall hnot
  · rcases step_of_not_callsVibrate hcall with ⟨ms, rfl, hstep⟩ | ⟨looper, rfl, hdeliver, hstep⟩ |
      hsame
    · cases hmanager.symm.trans hstep
      exact h.runWait htimely
    · cases hmanager.symm.trans hstep
      exact h.runReset hdeliver
    · rw [hleft] at hsame
      rw [next_of_same (congrArg Vibrator.vibrations hsame)]
      · rw [Pulses.Inv, hsame]
        exact h
      · exact Nat.le_of_eq (congrArg (List.length ∘ Looper.queue ∘ Vibrator.looper) hsame).symm

theorem pulsesApart_iff_left :
    PulsesApart s e ↔ Apart (CallManager.step s.manager e).left.vibrations := by
  rw [PulsesApart, Pulses.step, Outcome.left_mapState, next_manager]

theorem Pulses.Inv.apart_iff (h : s.Inv) : PulsesApart s e ↔ NotOvertaken s e := by
  rw [pulsesApart_iff_left]
  by_cases hcall : CallsVibrate s.manager e
  · have hvibrates := step_of_callsVibrate hcall
    cases hguard : s.manager.areWeVibrating with
    | true =>
        -- the call is suppressed
        rw [Vibrator.vibrate_of_guarded hguard] at hvibrates
        have hpulses : (CallManager.step s.manager e).left.vibrations = s.manager.vibrations :=
          congrArg Vibrator.vibrations hvibrates
        rw [hpulses]
        refine iff_of_true h.apart ?_
        intro _ hovertaken
        cases hguard.symm.trans (h.cleared hovertaken)
    | false =>
        rw [Vibrator.vibrate_of_free hguard] at hvibrates
        have hpulses : (CallManager.step s.manager e).left.vibrations =
            s.manager.vibrations ++ [s.manager.looper.now] :=
          congrArg Vibrator.vibrations hvibrates
        have hiff : Apart (s.manager.vibrations ++ [s.manager.looper.now]) ↔
            Over s.manager.vibrations s.manager.looper.now :=
          apart_concat_iff h.apart
        rw [hpulses, hiff]
        constructor
        · intro hover _ _
          exact hover
        · intro hnot
          exact h.over hcall hnot hguard
  · rw [step_vibrations hcall]
    exact iff_of_true h.apart fun hcall' => absurd hcall' hcall

/-- **Any two pulses are at least 350 ms apart, if and only if `vibrate` is never called before the
latest pulse is over once a reset that was posted before that pulse has run after it.** -/
theorem pulses_apart_iff (recordCall vibrateDuringCalls : Option Bool) (directory : Option String)
    (evs : List Event)
    (htimely : EveryStep Pulses.step Timely (.connected recordCall vibrateDuringCalls directory)
      evs) :
    EveryStep Pulses.step PulsesApart (.connected recordCall vibrateDuringCalls directory) evs ↔
      EveryStep Pulses.step NotOvertaken (.connected recordCall vibrateDuringCalls directory)
        evs := by
  apply everyStep_iff (P := Pulses.Inv) (B := Timely)
  · intro s e s' h htimely hnot hok
    exact h.step htimely hnot hok
  · intro s e h _
    exact h.apart_iff
  · exact inv_connected_pulses _ _ _
  · exact htimely

/-- A call of one second: both pulses are over when the next one begins. -/
theorem pulses_apart_iff_long_call :
    let p : Platform := ⟨"/storage/emulated/0", "20210301_101500", none, none, none⟩
    let evs : List Event := [.preciseCallState .sim1 .active p, .wait 350, .reset, .wait 650,
      .preciseCallState .sim1 .idle p]
    EveryStep Pulses.step PulsesApart (.connected none (some true) none) evs ↔
      EveryStep Pulses.step NotOvertaken (.connected none (some true) none) evs :=
  pulses_apart_iff none (some true) none _ (by decide +kernel)

/-- A call of 300 ms, the end of which is not felt, and another one 60 ms later. The reset of the
first end runs 290 ms into it, and when it ends after 300 ms, it vibrates again. -/
theorem short_calls_overlap :
    let p : Platform := ⟨"/storage/emulated/0", "20210301_101500", none, none, none⟩
    let evs : List Event := [.preciseCallState .sim1 .active p, .wait 300,
      .preciseCallState .sim1 .idle p, .wait 50, .reset, .wait 10,
      .preciseCallState .sim1 .active p, .wait 290, .reset, .wait 10,
      .preciseCallState .sim1 .idle p]
    EveryStep Pulses.step Timely (.connected none (some true) none) evs ∧
      ¬ EveryStep Pulses.step PulsesApart (.connected none (some true) none) evs := by
  decide +kernel

end VendorRs.CallManager
