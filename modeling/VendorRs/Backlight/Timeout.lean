import VendorRs.Lib.Runs
import VendorRs.Backlight.Basic

/-!
# A light that lasts as long as the timeout

A key that goes down while the screen is on is owed light: until the timeout has passed since its
release, or the screen goes off. `Watch` puts beside the state what is owed, and `owed_light_kept`
says when it is paid. Each press counts one up, each callback one down, and the light goes out at
zero; so it lasts as long as the counter covers the callbacks that are pending and those that the
keys still held will post. SCREEN_OFF is what breaks that: it sets the counter to zero and leaves
the callbacks where they are.
-/

namespace VendorRs.Backlight

open Java Runs

/-! ## What is owed -/

/-- The events of a run with `buttonsBacklightControl` on and a fixed timeout. -/
inductive Input where
  | keyDown (key : Key)
  | keyUp (key : Key)
  | callback
  | wait (ms : Nat)
  | screenOff
  | screenOn
  deriving DecidableEq, Repr

def Input.event : Input → Event
  | .keyDown key => .keyDown key
  | .keyUp key => .keyUp key
  | .callback => .callback
  | .wait ms => .wait ms
  | .screenOff => .screenOff
  | .screenOn => .screenOn

/-- The service, with the keys that are down, those among them that are owed light, and the times
until which keys already released are. -/
structure Watch where
  service : State
  held : List Key
  owed : List Key
  owedUntil : List Nat
  deriving DecidableEq

/-- The service and what is owed, after an event. -/
def Watch.step (w : Watch) (i : Input) : Outcome State Watch := do
  let service ← Backlight.step w.service i.event
  match i with
  | .keyDown key =>
      return { w with
        service := service
        held := w.held.insert key
        owed := if w.service.screenOn then w.owed.insert key else w.owed }
  | .keyUp key =>
      return { w with
        service := service
        held := w.held.filter (· ≠ key)
        owed := w.owed.filter (· ≠ key)
        owedUntil :=
          if key ∈ w.owed then
            (w.service.looper.now + w.service.capacitiveButtonsTimeoutInt.toNat) :: w.owedUntil
          else w.owedUntil }
  | .screenOff => return { w with service := service, owed := [], owedUntil := [] }
  | .callback | .wait _ | .screenOn => return { w with service := service }

/-- Light is owed to a key that is down, or to one whose time has not come. -/
def Watch.Owes (w : Watch) : Prop :=
  w.owed ≠ [] ∨ ∃ t ∈ w.owedUntil, w.service.looper.now < t

def Watch.Paid (w : Watch) : Prop := w.Owes → w.service.backlightOn = "true"

def StaysPaid (w : Watch) (i : Input) : Prop := ∀ w', w.step i = .ok w' → w'.Paid

/-- The number of callbacks that are pending, or will be posted by the keys that are down. -/
def Watch.outstanding (w : Watch) : Int := w.service.looper.queue.length + w.held.length

/-- A press with the screen on leaves a counter that covers every callback outstanding, its own
included; and a key that comes up was down, unless the counter covers its callback too. -/
def CounterCovers (w : Watch) : Input → Prop
  | .keyDown key => w.service.screenOn = true →
      Watch.outstanding { w with held := w.held.insert key } ≤ toInt (w.service.clickToShutdown + 1)
  | .keyUp key => key ∉ w.held → w.Owes → w.outstanding + 1 ≤ w.service.clickToShutdown
  | _ => True

instance (w : Watch) : Decidable w.Owes := by
  unfold Watch.Owes
  infer_instance

instance (w : Watch) : Decidable w.Paid := inferInstanceAs (Decidable (_ → _))

instance (w : Watch) (i : Input) : Decidable (StaysPaid w i) :=
  decidableForallOk (w.step i) Watch.Paid

instance (w : Watch) : ∀ i, Decidable (CounterCovers w i)
  | .keyDown _ => inferInstanceAs (Decidable (_ → _))
  | .keyUp _ => inferInstanceAs (Decidable (_ → _ → _))
  | .callback | .wait _ | .screenOff | .screenOn => inferInstanceAs (Decidable True)

/-! ## The invariant -/

structure Watch.Inv (w : Watch) : Prop where
  controlled : w.service.buttonsBacklightControl = true
  /-- The counter is an `int`. -/
  counter_lt : w.service.clickToShutdown < 2 ^ 31
  covered : w.Owes → w.outstanding ≤ w.service.clickToShutdown
  owed_held : ∀ key ∈ w.owed, key ∈ w.held
  /-- A key whose time has not come has its callback in the queue. -/
  pending : ∀ t ∈ w.owedUntil, w.service.looper.now < t → (t, ()) ∈ w.service.looper.queue
  owes_on : w.Owes → w.service.screenOn = true
  paid : w.Paid

variable {w w' : Watch} {i : Input}

/-- While nothing is owed, the counter does not matter. -/
theorem Watch.Inv.of_not_owes (hnot : ¬ w.Owes)
    (hcontrol : w.service.buttonsBacklightControl = true)
    (hint : w.service.clickToShutdown < 2 ^ 31) (hheld : ∀ key ∈ w.owed, key ∈ w.held) :
    w.Inv where
  controlled := hcontrol
  counter_lt := hint
  covered := by
    intro howes
    exact absurd howes hnot
  owed_held := hheld
  pending := by
    intro t ht hlt
    exact absurd (.inr ⟨t, ht, hlt⟩) hnot
  owes_on := by
    intro howes
    exact absurd howes hnot
  paid := by
    intro howes
    exact absurd howes hnot

/-- Nothing is owed yet. -/
theorem Watch.inv_start {s : State} (held : List Key) (hcontrol : s.buttonsBacklightControl = true)
    (hint : s.clickToShutdown < 2 ^ 31) : Watch.Inv ⟨s, held, [], []⟩ := by
  have hnot : ¬ Watch.Owes ⟨s, held, [], []⟩ := by simp [Watch.Owes]
  exact .of_not_owes hnot hcontrol hint (by simp)

/-- What a step may change without adding to what is owed. -/
theorem Watch.Owes.mono (howes : w'.Owes) (howed : w'.owed ≠ [] → w.owed ≠ [])
    (huntil : ∀ t ∈ w'.owedUntil, w'.service.looper.now < t →
      w.owed ≠ [] ∨ (t ∈ w.owedUntil ∧ w.service.looper.now < t)) : w.Owes := by
  rcases howes with hne | ⟨t, ht, hlt⟩
  · exact .inl (howed hne)
  · rcases huntil t ht hlt with hne | ht
    · exact .inl hne
    · exact .inr ⟨t, ht⟩

/-! ## Keys -/

/-- A key went down. -/
def Watch.pressed (w : Watch) (key : Key) : Watch :=
  { w with
    service := { w.service with
      clickToShutdown := toInt (w.service.clickToShutdown + 1), backlightOn := "true" }
    held := w.held.insert key
    owed := if w.service.screenOn then w.owed.insert key else w.owed }

theorem Watch.step_keyDown (hcontrol : w.service.buttonsBacklightControl = true) (key : Key) :
    w.step (.keyDown key) = .ok (w.pressed key) := by
  have hdown : handleKeyDown w.service = (w.pressed key).service := if_pos hcontrol
  show Except.ok _ = _
  rw [hdown]
  rfl

theorem Watch.Inv.keyDown (h : w.Inv) {key : Key} (hcovers : CounterCovers w (.keyDown key)) :
    (w.pressed key).Inv := by
  by_cases hon : w.service.screenOn = true
  · exact { h with
      counter_lt := toInt_lt _
      covered := by
        intro _
        exact hcovers hon
      owed_held := by
        intro key' hkey'
        simp only [Watch.pressed, hon, if_true] at hkey'
        rcases List.mem_insert_iff.mp hkey' with rfl | hkey'
        · exact List.mem_insert_self
        · exact List.mem_insert_of_mem (h.owed_held key' hkey')
      owes_on := by
        intro _
        exact hon
      paid := by
        intro _
        rfl }
  · -- with the screen off nothing is owed, before or after
    have howed : (w.pressed key).owed = w.owed := if_neg hon
    have hnot : ¬ (w.pressed key).Owes := by
      intro howes
      apply hon
      apply h.owes_on
      refine howes.mono ?_ ?_
      · rw [howed]
        exact id
      · intro t ht hlt
        exact .inr ⟨ht, hlt⟩
    apply Watch.Inv.of_not_owes hnot h.controlled (toInt_lt _)
    intro key' hkey'
    rw [howed] at hkey'
    exact List.mem_insert_of_mem (h.owed_held key' hkey')

/-- A key came up. -/
def Watch.released (w : Watch) (key : Key) : Watch :=
  { service := { w.service with
      looper := w.service.looper.post w.service.capacitiveButtonsTimeoutInt () }
    held := w.held.filter (· ≠ key)
    owed := w.owed.filter (· ≠ key)
    owedUntil :=
      if key ∈ w.owed then
        (w.service.looper.now + w.service.capacitiveButtonsTimeoutInt.toNat) :: w.owedUntil
      else w.owedUntil }

theorem Watch.step_keyUp (hcontrol : w.service.buttonsBacklightControl = true) (key : Key) :
    w.step (.keyUp key) = .ok (w.released key) := by
  have hup : handleKeyUp w.service = (w.released key).service := if_pos hcontrol
  show Except.ok _ = _
  rw [hup]
  rfl

/-- A time in the list of a key that came up is its own, or was there before. -/
theorem Watch.mem_owedUntil_released {key : Key} {t : Nat}
    (ht : t ∈ (w.released key).owedUntil) :
    (key ∈ w.owed ∧ t = w.service.looper.now + w.service.capacitiveButtonsTimeoutInt.toNat) ∨
      t ∈ w.owedUntil := by
  simp only [Watch.released] at ht
  split at ht
  · next hkey =>
      rcases List.mem_cons.mp ht with rfl | ht
      · exact .inl ⟨hkey, rfl⟩
      · exact .inr ht
  · exact .inr ht

theorem Watch.owes_of_released {key : Key} (howes : (w.released key).Owes) : w.Owes := by
  refine howes.mono ?_ ?_
  · intro hne hnil
    exact hne (by simp [Watch.released, hnil])
  · intro t ht hlt
    rcases Watch.mem_owedUntil_released ht with ⟨hkey, -⟩ | ht
    · exact .inl (List.ne_nil_of_mem hkey)
    · exact .inr ⟨ht, hlt⟩

theorem Watch.Inv.keyUp (h : w.Inv) {key : Key} (hcovers : CounterCovers w (.keyUp key)) :
    (w.released key).Inv where
  controlled := h.controlled
  counter_lt := h.counter_lt
  covered := by
    intro howes
    have howes := Watch.owes_of_released howes
    show ((Looper.enqueue _ () w.service.looper.queue).length : Int) +
      (w.held.filter (· ≠ key)).length ≤ w.service.clickToShutdown
    rw [Looper.length_enqueue]
    by_cases hkey : key ∈ w.held
    · -- one key less is down, and one callback more is pending
      have hcovered := h.covered howes
      have hlt : (w.held.filter (· ≠ key)).length < w.held.length :=
        List.length_filter_lt_length_iff_exists.mpr ⟨key, hkey, by simp⟩
      simp only [Watch.outstanding] at hcovered
      omega
    · have hcovered := hcovers hkey howes
      have hle := List.length_filter_le (· ≠ key) w.held
      simp only [Watch.outstanding] at hcovered
      omega
  owed_held := by
    intro key' hkey'
    obtain ⟨hmem, hne⟩ := List.mem_filter.mp hkey'
    exact List.mem_filter.mpr ⟨h.owed_held key' hmem, hne⟩
  pending := by
    intro t ht hlt
    apply Looper.mem_enqueue.mpr
    rcases Watch.mem_owedUntil_released ht with ⟨-, rfl⟩ | ht
    · exact .inl rfl
    · exact .inr (h.pending t ht hlt)
  owes_on := by
    intro howes
    exact h.owes_on (Watch.owes_of_released howes)
  paid := by
    intro howes
    exact h.paid (Watch.owes_of_released howes)

/-! ## Callbacks -/

/-- A callback that runs while light is owed is not the last one outstanding. -/
theorem Watch.Inv.two_outstanding (h : w.Inv) (howes : w.Owes) {due : Nat}
    {queue : List (Nat × Unit)} (hqueue : w.service.looper.queue = (due, ()) :: queue)
    (hdue : due ≤ w.service.looper.now) : 2 ≤ w.outstanding := by
  simp only [Watch.outstanding, hqueue, List.length_cons]
  rcases howes with hne | ⟨t, ht, hlt⟩
  · obtain ⟨key, hkey⟩ := List.exists_mem_of_ne_nil _ hne
    have := List.length_pos_of_mem (h.owed_held key hkey)
    omega
  · have hmem := h.pending t ht hlt
    rw [hqueue] at hmem
    rcases List.mem_cons.mp hmem with heq | hmem
    · -- the one that runs is due, that of `t` is not
      cases heq
      omega
    · have := List.length_pos_of_mem hmem
      omega

/-- The state after a callback that leaves others outstanding. -/
theorem shutdown_of_two_le {s : State} (hint : s.clickToShutdown < 2 ^ 31)
    (htwo : 2 ≤ s.clickToShutdown) :
    shutdown s = { s with clickToShutdown := s.clickToShutdown - 1 } := by
  have hsub : toInt (s.clickToShutdown - 1) = s.clickToShutdown - 1 :=
    toInt_of_lt (by omega) (by omega)
  unfold shutdown
  dsimp only
  rw [hsub, if_neg (by omega)]

theorem shutdown_spec (s : State) :
    ∃ click light, shutdown s = { s with clickToShutdown := click, backlightOn := light } ∧
      click < 2 ^ 31 := by
  unfold shutdown
  dsimp only
  split
  · exact ⟨0, "false", rfl, by decide⟩
  · exact ⟨_, s.backlightOn, rfl, toInt_lt _⟩

/-- A callback runs while light is owed: the counter goes down, and the light stays on. -/
theorem Watch.Inv.callback_of_owes (h : w.Inv) (howes : w.Owes) {looper : Looper Unit} {due : Nat}
    (hnow : looper.now = w.service.looper.now) (hdue : due ≤ w.service.looper.now)
    (hqueue : w.service.looper.queue = (due, ()) :: looper.queue) :
    Watch.Inv { w with service := shutdown { w.service with looper := looper } } := by
  have hcovered := h.covered howes
  have htwo := (h.two_outstanding howes hqueue hdue).trans hcovered
  rw [shutdown_of_two_le (s := { w.service with looper := looper }) h.counter_lt htwo]
  exact { h with
    counter_lt := by
      have := h.counter_lt
      show w.service.clickToShutdown - 1 < 2 ^ 31
      omega
    covered := by
      intro _
      simp only [Watch.outstanding, hqueue, List.length_cons] at hcovered
      show (looper.queue.length : Int) + w.held.length ≤ w.service.clickToShutdown - 1
      omega
    pending := by
      intro t ht hlt
      have hlt : w.service.looper.now < t := hnow ▸ hlt
      have hmem := h.pending t ht hlt
      rw [hqueue] at hmem
      rcases List.mem_cons.mp hmem with heq | hmem
      · -- the one that ran was due, that of `t` is not
        cases heq
        omega
      · exact hmem
    owes_on := by
      intro _
      exact h.owes_on howes
    paid := by
      intro _
      exact h.paid howes }

/-- A callback runs while nothing is owed. -/
theorem Watch.Inv.callback_of_not_owes (h : w.Inv) (hnot : ¬ w.Owes) {looper : Looper Unit}
    (hnow : looper.now = w.service.looper.now) :
    Watch.Inv { w with service := shutdown { w.service with looper := looper } } := by
  obtain ⟨click, light, hshutdown, hint⟩ := shutdown_spec { w.service with looper := looper }
  rw [hshutdown]
  refine .of_not_owes ?_ h.controlled hint h.owed_held
  intro howes
  apply hnot
  refine howes.mono id ?_
  intro t ht hlt
  exact .inr ⟨ht, hnow ▸ hlt⟩

theorem Watch.Inv.callback (h : w.Inv) : Watch.Inv { w with service := runCallback w.service } := by
  unfold runCallback
  split
  · next looper hdeliver =>
      obtain ⟨hnow, due, hdue, hqueue⟩ := Looper.deliver_eq_some hdeliver
      by_cases howes : w.Owes
      · exact h.callback_of_owes howes hnow hdue hqueue
      · exact h.callback_of_not_owes howes hnow
  · exact h

/-! ## Time and the screen -/

theorem Watch.Inv.wait (h : w.Inv) (ms : Nat) :
    Watch.Inv { w with service := { w.service with looper := w.service.looper.wait ms } } := by
  have howes : Watch.Owes { w with service := { w.service with
      looper := w.service.looper.wait ms } } → w.Owes := by
    intro howes
    refine howes.mono id ?_
    intro t ht hlt
    exact .inr ⟨ht, lt_of_le_of_lt (Nat.le_add_right _ ms) hlt⟩
  exact { h with
    covered := by
      intro ho
      exact h.covered (howes ho)
    pending := by
      intro t ht hlt
      exact h.pending t ht (lt_of_le_of_lt (Nat.le_add_right _ ms) hlt)
    owes_on := by
      intro ho
      exact h.owes_on (howes ho)
    paid := by
      intro ho
      exact h.paid (howes ho) }

theorem Watch.Inv.screenOff (h : w.Inv) :
    Watch.Inv { w with service := onScreenOff w.service, owed := [], owedUntil := [] } := by
  have hnot : ¬ Watch.Owes { w with
      service := onScreenOff w.service, owed := [], owedUntil := [] } := by simp [Watch.Owes]
  have hzero : (onScreenOff w.service).clickToShutdown < 2 ^ 31 := by
    show (0 : Int) < 2 ^ 31
    decide
  exact .of_not_owes hnot h.controlled hzero (by simp)

theorem Watch.Inv.screenOn (h : w.Inv) : Watch.Inv { w with service := onScreenOn w.service } := by
  exact { h with
    owes_on := by
      intro _
      rfl
    paid := by
      intro howes
      show (if w.service.buttonsBacklightControlForced then "true" else w.service.backlightOn) =
        "true"
      split
      · rfl
      · exact h.paid howes }

/-! ## Whole runs -/

theorem Watch.Inv.step (h : w.Inv) (hcovers : CounterCovers w i) (hok : w.step i = .ok w') :
    w'.Inv := by
  cases i with
  | keyDown key =>
      cases hok.symm.trans (Watch.step_keyDown h.controlled key)
      exact h.keyDown hcovers
  | keyUp key =>
      cases hok.symm.trans (Watch.step_keyUp h.controlled key)
      exact h.keyUp hcovers
  | callback => cases hok; exact h.callback
  | wait ms => cases hok; exact h.wait ms
  | screenOff => cases hok; exact h.screenOff
  | screenOn => cases hok; exact h.screenOn

/-- **The light stays on from a press with the screen on until the timeout has passed since the
release, or the screen goes off, in every run in which each such press leaves a counter that covers
all the callbacks outstanding.** -/
theorem owed_light_kept (s : State) (held : List Key) (inputs : List Input)
    (hcontrol : s.buttonsBacklightControl = true) (hint : s.clickToShutdown < 2 ^ 31)
    (hcovers : EveryStep Watch.step CounterCovers ⟨s, held, [], []⟩ inputs) :
    EveryStep Watch.step StaysPaid ⟨s, held, [], []⟩ inputs := by
  refine EveryStep.imp (P := Watch.Inv) ?_ ?_ (Watch.inv_start held hcontrol hint) hcovers
  · intro w i w' h hcovers hok
    exact h.step hcovers hok
  · intro w i h hcovers w' hok
    exact (h.step hcovers hok).paid

/-- A press, the screen off and on again, and a second press: the callback of the first puts the
light out while the key is down. -/
theorem light_put_out_by_old_callback :
    onServiceConnected (.created none (some true) (some "1500") true "false") =
      .ok (.controlled 1500 true) ∧
    ¬ EveryStep Watch.step StaysPaid ⟨.controlled 1500 true, [], [], []⟩
      [.keyDown .back, .keyUp .back, .screenOff, .screenOn, .wait 1000, .keyDown .back, .wait 500,
        .callback] := by
  decide +kernel

/-- The same, with the second press after the callback of the first. -/
theorem owed_light_kept_second_press :
    EveryStep Watch.step StaysPaid ⟨.controlled 1500 true, [], [], []⟩
      [.keyDown .back, .keyUp .back, .screenOff, .screenOn, .wait 1500, .callback, .keyDown .back,
        .wait 500, .keyDown .appSelect, .keyUp .back, .wait 1500, .callback] :=
  owed_light_kept _ _ _ (by decide) (by decide) (by decide +kernel)

end VendorRs.Backlight
