import VendorRs.MainService.Reconfiguration
import VendorRs.Utils

/-!
# The dialogs for a number

Two preferences are numbers that the user types in. Either dialog checks the text before it stores
it, since `MainService` will take it for a number whenever it connects: the text has to look like an
integer, and the integer has to be in range.

A text may look like an integer and still be too long for an `int`; the range is never asked for
then. And one of the two dialogs stores a number that it announces it will not. Apart from that they
do what they announce, `dialog_keeps_promise_iff`.

What `\d` matches is a parameter. To Java it is the ten digits of ASCII, to Android any digit.
-/

namespace VendorRs.MainService

open Java Utils

/-- What a dialog reads and writes. -/
structure Screen where
  pref : Preferences
  /-- The nodes of the vibrator. -/
  files : Files
  toasts : List String
  /-- For the theorems only: what has been committed so far. -/
  commits : List (NumberKey × String)

def Screen.commit (s : Screen) (key : NumberKey) (text : String) : Screen :=
  { s with pref := s.pref.set (.number key (some text)), commits := s.commits ++ [(key, text)] }

def Screen.toast (s : Screen) (text : String) : Screen := { s with toasts := s.toasts ++ [text] }

section Dialogs

variable (isDigit : Char → Bool)

/-- `\d+`. -/
def matchesDigits (cs : List Char) : Bool := !cs.isEmpty && cs.all isDigit

/-- `text.matches("-?\\d+")`. -/
def matchesNumber (text : String) : Bool :=
  match text.toList with
  | '-' :: cs => matchesDigits isDigit cs || matchesDigits isDigit ('-' :: cs)
  | cs => matchesDigits isDigit cs

/-- Checks on the integer, joined by `&&`. Each reads the text again. -/
def allOf (text : String) : List (Int → Bool) → Except Exception Bool
  | [] => .ok true
  | check :: checks => do
      let n ← valueOf text
      if check n then allOf text checks else return false

/-- The condition in an OK handler. -/
def isAccepted (text : String) (checks : List (Int → Bool)) : Except Exception Bool :=
  if matchesNumber isDigit text then allOf text checks else .ok false

/-- An OK handler, which stores the text or says what it should be. -/
def confirm (checks : List (Int → Bool)) (message : String)
    (store : Screen → String → Outcome Screen Screen) (s : Screen) (m_Text : String) :
    Outcome Screen Screen := do
  let accepted ← leaving s (isAccepted isDigit m_Text checks)
  if accepted then store s m_Text else return s.toast message

/-- The OK handler of `showVibrationOptions`. -/
def VibrationExtra.onClick : Screen → String → Outcome Screen Screen :=
  confirm isDigit [fun n => n ≥ 0, fun n => n ≤ 100] "Set an integer between 0 and 100"
    fun s m_Text => do
      let s := s.commit .vibrationIntensityString m_Text
      let files ← leaving s (setVibrationIntensity s.files m_Text)
      return { s with files := files }

/-- The OK handler of `showCapacitiveButtonsOptions`. -/
def CapacitiveButtonsExtra.onClick : Screen → String → Outcome Screen Screen :=
  confirm isDigit [fun n => n ≥ 0] "Set an integer greater than 0"
    fun s m_Text => return s.commit .capacitiveButtonsBacklightTimeout m_Text

inductive Dialog where
  | vibration
  | capacitiveButtons
  deriving DecidableEq, Repr

def Dialog.onClick : Dialog → Screen → String → Outcome Screen Screen
  | .vibration => VibrationExtra.onClick isDigit
  | .capacitiveButtons => CapacitiveButtonsExtra.onClick isDigit

end Dialogs

def Dialog.key : Dialog → NumberKey
  | .vibration => .vibrationIntensityString
  | .capacitiveButtons => .capacitiveButtonsBacklightTimeout

/-- The range in the title, and in the toast. -/
def Dialog.Announces : Dialog → Int → Prop
  | .vibration, n => 0 ≤ n ∧ n ≤ 100
  | .capacitiveButtons, n => 0 < n

/-! ## What is promised -/

section Promise

variable (isDigit : Char → Bool) (getRafFromNetworkType : Int → Int) (dialog : Dialog)

/-- An integer in the announced range. -/
def WellFormed (text : String) : Prop :=
  matchesNumber isDigit text = true ∧
    ∃ n, signedValue 10 text.toList = some n ∧ dialog.Announces n

/-- The text is read everywhere without an exception: when the service connects, if all other texts
are numbers, by its listener, and on the way to the vibrator. -/
structure ReadEverywhere (pref : Preferences) (text : String) : Prop where
  connects : ∀ device : Device, (∃ n, valueOf device.triState = .ok n) →
    (∀ key ≠ dialog.key, ∃ n, valueOf (pref.getString key) = .ok n) →
    ∃ s, onServiceConnected getRafFromNetworkType (.created pref device) device = .ok s
  listens : ∀ (s : State) (e : Event), e.change = .number dialog.key (some text) →
    ∃ s', step getRafFromNetworkType s e = .ok s'
  vibrates : ∀ files, ∃ files', setVibrationIntensity files text = .ok files'

/-- What becomes of a text that is confirmed. -/
structure KeepsPromise (s : Screen) (text : String) : Prop where
  returns : ∃ s', dialog.onClick isDigit s text = .ok s'
  stores : WellFormed isDigit dialog text →
    (dialog.onClick isDigit s text).left.commits = s.commits ++ [(dialog.key, text)] ∧
      (dialog.onClick isDigit s text).left.pref = s.pref.set (.number dialog.key (some text))
  refuses : ¬ WellFormed isDigit dialog text →
    (dialog.onClick isDigit s text).left.commits = s.commits ∧
      (dialog.onClick isDigit s text).left.pref = s.pref
  read : (dialog.onClick isDigit s text).left.commits ≠ s.commits →
    ReadEverywhere getRafFromNetworkType dialog (dialog.onClick isDigit s text).left.pref text

/-- A text that looks like an integer is one of 32 bits, and not zero if it is a timeout. -/
def WithinLimits (text : String) : Prop :=
  matchesNumber isDigit text = true →
    ∃ n, signedValue 10 text.toList = some n ∧ -2 ^ 31 ≤ n ∧ n < 2 ^ 31 ∧
      (dialog = .capacitiveButtons → n ≠ 0)

end Promise

variable {isDigit : Char → Bool} {getRafFromNetworkType : Int → Int} {dialog : Dialog}
  {s : Screen} {text : String} {n : Int} {x : Exception}

/-! ## The handlers -/

section Confirm

variable {check : Int → Bool} {checks : List (Int → Bool)} {message : String}
  {store : Screen → String → Outcome Screen Screen}

theorem confirm_of_not_matches (h : matchesNumber isDigit text = false) :
    confirm isDigit checks message store s text = .ok (s.toast message) := by
  rw [confirm, isAccepted, h]
  rfl

/-- Where the text looks like an integer, it is read before anything else happens. -/
theorem confirm_of_error (h : matchesNumber isDigit text = true)
    (hvalue : valueOf text = .error x) :
    confirm isDigit (check :: checks) message store s text = .error (x, s) := by
  rw [confirm, isAccepted, if_pos h, allOf, hvalue]
  rfl

theorem allOf_of_ok (hvalue : valueOf text = .ok n) :
    allOf text checks = .ok (checks.all (· n)) := by
  induction checks with
  | nil => rfl
  | cons check checks ih =>
      rw [allOf, hvalue, ok_bind, ih, List.all_cons]
      cases check n <;> rfl

theorem confirm_of_ok (h : matchesNumber isDigit text = true) (hvalue : valueOf text = .ok n) :
    confirm isDigit checks message store s text =
      if checks.all (· n) then store s text else .ok (s.toast message) := by
  rw [confirm, isAccepted, if_pos h, allOf_of_ok hvalue]
  rfl

end Confirm

/-- The integers a dialog stores. -/
def Dialog.Accepts : Dialog → Int → Prop
  | .vibration, n => 0 ≤ n ∧ n ≤ 100
  | .capacitiveButtons, n => 0 ≤ n

theorem onClick_of_not_matches (h : matchesNumber isDigit text = false) :
    ∃ message, dialog.onClick isDigit s text = .ok (s.toast message) := by
  cases dialog with
  | vibration =>
      rw [Dialog.onClick, VibrationExtra.onClick, confirm_of_not_matches h]
      exact ⟨_, rfl⟩
  | capacitiveButtons =>
      rw [Dialog.onClick, CapacitiveButtonsExtra.onClick, confirm_of_not_matches h]
      exact ⟨_, rfl⟩

theorem onClick_of_error (h : matchesNumber isDigit text = true)
    (hvalue : valueOf text = .error x) :
    dialog.onClick isDigit s text = .error (x, s) := by
  cases dialog with
  | vibration => rw [Dialog.onClick, VibrationExtra.onClick, confirm_of_error h hvalue]
  | capacitiveButtons =>
      rw [Dialog.onClick, CapacitiveButtonsExtra.onClick, confirm_of_error h hvalue]

theorem onClick_intensity {files : Files} (h : matchesNumber isDigit text = true)
    (hvalue : valueOf text = .ok n) (haccepts : Dialog.vibration.Accepts n)
    (hfiles : setVibrationIntensity s.files text = .ok files) :
    Dialog.vibration.onClick isDigit s text =
      .ok { s.commit .vibrationIntensityString text with files := files } := by
  rw [Dialog.onClick, VibrationExtra.onClick, confirm_of_ok h hvalue,
    if_pos (by simpa [Dialog.Accepts] using haccepts)]
  show (leaving _ (setVibrationIntensity s.files text) >>= _) = _
  rw [hfiles]
  rfl

theorem onClick_of_accepted (h : matchesNumber isDigit text = true) (hvalue : valueOf text = .ok n)
    (haccepts : dialog.Accepts n) :
    ∃ files, dialog.onClick isDigit s text =
      .ok { s.commit dialog.key text with files := files } := by
  cases dialog with
  | vibration =>
      exact ⟨_, onClick_intensity h hvalue haccepts (setVibrationIntensity_eq s.files hvalue)⟩
  | capacitiveButtons =>
      refine ⟨s.files, ?_⟩
      rw [Dialog.onClick, CapacitiveButtonsExtra.onClick, confirm_of_ok h hvalue,
        if_pos (by simpa [Dialog.Accepts] using haccepts)]
      rfl

theorem onClick_of_refused (h : matchesNumber isDigit text = true) (hvalue : valueOf text = .ok n)
    (hrefuses : ¬ dialog.Accepts n) :
    ∃ message, dialog.onClick isDigit s text = .ok (s.toast message) := by
  cases dialog with
  | vibration =>
      rw [Dialog.onClick, VibrationExtra.onClick, confirm_of_ok h hvalue,
        if_neg (by simpa [Dialog.Accepts] using hrefuses)]
      exact ⟨_, rfl⟩
  | capacitiveButtons =>
      rw [Dialog.onClick, CapacitiveButtonsExtra.onClick, confirm_of_ok h hvalue,
        if_neg (by simpa [Dialog.Accepts] using hrefuses)]
      exact ⟨_, rfl⟩

/-! ## Texts that are read again -/

/-- What is stored is what is read. -/
theorem getString_set (pref : Preferences) (key : NumberKey) (text : String) :
    (pref.set (.number key (some text))).getString key = text := by
  simp [Preferences.set, Preferences.getString]

theorem numeric_set {pref : Preferences} {key : NumberKey} (hvalue : valueOf text = .ok n)
    (hothers : ∀ key' ≠ key, ∃ n, valueOf ((pref.set (.number key (some text))).getString key') =
      .ok n) :
    (pref.set (.number key (some text))).Numeric := by
  intro key'
  by_cases hkey : key' = key
  · rw [hkey, getString_set]
    exact ⟨n, hvalue⟩
  · exact hothers key' hkey

/-- The listener has a case for the timeout only. -/
theorem listens_of_number (hvalue : valueOf text = .ok n) (s : State) (e : Event)
    (hchange : e.change = .number dialog.key (some text)) :
    ∃ s', step getRafFromNetworkType s e = .ok s' := by
  rw [step, hchange]
  cases dialog with
  | vibration => exact ⟨_, rfl⟩
  | capacitiveButtons =>
      have htimeout := readTimeout_eq (s := { s.backlight with timeoutPref := some text }) hvalue
      exact ⟨_, congrArg (Outcome.mapState _) htimeout⟩

/-- A number is read without an exception wherever it is read. -/
theorem readEverywhere_of_number (pref : Preferences) (hvalue : valueOf text = .ok n) :
    ReadEverywhere getRafFromNetworkType dialog (pref.set (.number dialog.key (some text)))
      text where
  connects := by
    intro device hslider hothers
    obtain ⟨s, hconnected, -, -⟩ := onServiceConnected_spec getRafFromNetworkType
      (pref.set (.number dialog.key (some text))) device (numeric_set hvalue hothers) hslider
    exact ⟨s, hconnected⟩
  listens := listens_of_number hvalue
  vibrates := fun files => ⟨_, setVibrationIntensity_eq files hvalue⟩

/-! ## When the promise is kept -/

/-- Zero is the only difference between what is announced and what is stored. -/
theorem accepts_iff_announces (h : dialog = .capacitiveButtons → n ≠ 0) :
    dialog.Accepts n ↔ dialog.Announces n := by
  cases dialog with
  | vibration => exact Iff.rfl
  | capacitiveButtons =>
      have hzero := h rfl
      simp only [Dialog.Accepts, Dialog.Announces]
      omega

theorem wellFormed_iff (dialog : Dialog) (h : matchesNumber isDigit text = true)
    (hdenotes : signedValue 10 text.toList = some n) :
    WellFormed isDigit dialog text ↔ dialog.Announces n := by
  constructor
  · rintro ⟨-, n', hn', hannounced⟩
    cases hdenotes.symm.trans hn'
    exact hannounced
  · intro hannounced
    exact ⟨h, n, hdenotes, hannounced⟩

/-- A text that is refused changes nothing, so it had better be none to store. -/
theorem keepsPromise_of_toast {message : String}
    (hclick : dialog.onClick isDigit s text = .ok (s.toast message))
    (hnot : ¬ WellFormed isDigit dialog text) :
    KeepsPromise isDigit getRafFromNetworkType dialog s text := by
  have hleft := Outcome.left_of_ok hclick
  refine ⟨⟨_, hclick⟩, fun h => absurd h hnot, fun _ => ?_, ?_⟩
  · rw [hleft]
    exact ⟨rfl, rfl⟩
  · rw [hleft]
    exact fun h => absurd rfl h

theorem keepsPromise_of_commit {files : Files}
    (hclick : dialog.onClick isDigit s text = .ok { s.commit dialog.key text with files := files })
    (hwell : WellFormed isDigit dialog text) (hvalue : valueOf text = .ok n) :
    KeepsPromise isDigit getRafFromNetworkType dialog s text := by
  have hleft := Outcome.left_of_ok hclick
  refine ⟨⟨_, hclick⟩, fun _ => ?_, fun h => absurd hwell h, fun _ => ?_⟩
  · rw [hleft]
    exact ⟨rfl, rfl⟩
  · rw [hleft]
    exact readEverywhere_of_number s.pref hvalue

theorem keepsPromise_of_withinLimits (h : WithinLimits isDigit dialog text) :
    KeepsPromise isDigit getRafFromNetworkType dialog s text := by
  cases hmatches : matchesNumber isDigit text with
  | false =>
      obtain ⟨message, hclick⟩ := onClick_of_not_matches hmatches
      apply keepsPromise_of_toast hclick
      rintro ⟨hmatches', -⟩
      cases hmatches.symm.trans hmatches'
  | true =>
      obtain ⟨n, hdenotes, h₀, h₁, hzero⟩ := h hmatches
      have hvalue : valueOf text = .ok n := valueOf_eq_ok.mpr ⟨hdenotes, h₀, h₁⟩
      have hwell := wellFormed_iff dialog hmatches hdenotes
      by_cases haccepts : dialog.Accepts n
      · obtain ⟨files, hclick⟩ := onClick_of_accepted hmatches hvalue haccepts
        apply keepsPromise_of_commit hclick _ hvalue
        exact hwell.mpr ((accepts_iff_announces hzero).mp haccepts)
      · obtain ⟨message, hclick⟩ := onClick_of_refused hmatches hvalue haccepts
        apply keepsPromise_of_toast hclick
        rw [hwell, ← accepts_iff_announces hzero]
        exact haccepts

theorem KeepsPromise.withinLimits (h : KeepsPromise isDigit getRafFromNetworkType dialog s text) :
    WithinLimits isDigit dialog text := by
  intro hmatches
  cases hvalue : valueOf text with
  | error x =>
      obtain ⟨s', hreturns⟩ := h.returns
      rw [onClick_of_error hmatches hvalue] at hreturns
      cases hreturns
  | ok n =>
      obtain ⟨hdenotes, h₀, h₁⟩ := valueOf_eq_ok.mp hvalue
      refine ⟨n, hdenotes, h₀, h₁, ?_⟩
      rintro rfl rfl
      -- zero is stored
      have hrefuses : ¬ WellFormed isDigit .capacitiveButtons text := by
        rw [wellFormed_iff _ hmatches hdenotes]
        exact Int.lt_irrefl 0
      have haccepts : Dialog.capacitiveButtons.Accepts 0 := Int.le_refl 0
      obtain ⟨files, hclick⟩ := onClick_of_accepted (s := s) hmatches hvalue haccepts
      obtain ⟨hcommits, -⟩ := h.refuses hrefuses
      rw [hclick] at hcommits
      have hlength := congrArg List.length hcommits
      simp [Outcome.left, Screen.commit] at hlength

/-- **A dialog returns, stores exactly the integers it announces, and only texts that are read
without an exception ever after, if and only if a text that looks like an integer is one of 32 bits,
and not zero if it is a timeout.** -/
theorem dialog_keeps_promise_iff (isDigit : Char → Bool) (getRafFromNetworkType : Int → Int)
    (dialog : Dialog) (s : Screen) (text : String) :
    KeepsPromise isDigit getRafFromNetworkType dialog s text ↔
      WithinLimits isDigit dialog text := by
  constructor
  · exact KeepsPromise.withinLimits
  · exact keepsPromise_of_withinLimits

/-- Nothing is set yet, and there is no vibrator. -/
def Screen.new : Screen where
  pref := ⟨fun _ => none, fun _ => none, none⟩
  files := fun _ => none
  toasts := []
  commits := []

/-- An intensity of eleven digits is not caught, and the timeout zero is stored. -/
theorem long_intensity_zero_timeout :
    ¬ KeepsPromise Char.isDigit id .vibration .new "99999999999" ∧
      ¬ KeepsPromise Char.isDigit id .capacitiveButtons .new "0" := by
  constructor
  · intro h
    obtain ⟨n, hdenotes, -, hn, -⟩ := h.withinLimits (by decide)
    have hlong : signedValue 10 "99999999999".toList = some 99999999999 := by decide
    cases hdenotes.symm.trans hlong
    exact absurd hn (by decide)
  · intro h
    obtain ⟨n, hdenotes, -, -, hzero⟩ := h.withinLimits (by decide)
    have hnothing : signedValue 10 "0".toList = some 0 := by decide
    cases hdenotes.symm.trans hnothing
    exact hzero rfl rfl

end VendorRs.MainService
