import Mathlib.Data.Nat.Digits.Defs
import VendorRs.LedLightManager.Tracking
import VendorRs.LightDaemon.Main

/-!
# From a rule to the daemon and back

The service joins six fields with `-`, the daemon cuts the result at `-`. Three of the fields are
signed integers that print their own `-`, and `strtok` takes two in a row for one cut, so a sign is
lost on the way and nothing else is: `config_lightValue`.

What follows for a rule of the configuration file is `rule_round_trips_iff`: the value fits into a
property, and comes back as it was sent, exactly if neither duration is negative.
-/

namespace VendorRs.LightDaemon

open Java LedLightManager Tokens

/-! ## Fields -/

theorem del_free_natCast (n : Nat) : ∀ c ∈ (toString n).toList, del c = false := by
  intro c hc
  rw [Nat.toString_eq_repr, Nat.toList_repr] at hc
  have hdigit := Nat.isDigit_of_mem_toDigits (by decide) (by decide) hc
  apply decide_eq_false
  rintro rfl
  exact absurd hdigit (by decide)

/-- The fields a signed integer adds: its sign is a cut of its own, after an empty field. -/
def signedFields (n : Int) : List (List Char) :=
  if n < 0 then [[], (toString n.natAbs).toList] else [(toString n.natAbs).toList]

theorem toList_toString_int (n : Int) :
    (toString n).toList = ['-'].intercalate (signedFields n) := by
  cases n with
  | ofNat n =>
      show (toString n).toList = _
      have hpos : ¬ Int.ofNat n < 0 := Int.not_lt.mpr (Int.natCast_nonneg n)
      rw [signedFields, if_neg hpos, List.intercalate_singleton]
      rfl
  | negSucc n =>
      show ("-" ++ toString (n + 1)).toList = _
      rw [signedFields, if_pos (Int.negSucc_lt_zero n), List.intercalate_cons_cons,
        List.intercalate_singleton, String.toList_append]
      rfl

/-- The comma-separated ramp, before the last comma is cut off. -/
theorem toList_foldl_ramp (f : Nat → Nat) (ramp : List Nat) (buf : String) :
    (ramp.foldl (fun buf i => buf ++ toString (f i) ++ ",") buf).toList =
      buf.toList ++ ramp.flatMap fun i => (toString (f i)).toList ++ [','] := by
  induction ramp generalizing buf with
  | nil => simp
  | cons i ramp ih =>
      rw [List.foldl_cons, ih, List.flatMap_cons]
      simp

theorem toList_getScaledDutyPcts (brightness : Nat) :
    (getScaledDutyPcts brightness).toList =
      (brightnessRamp.flatMap fun i =>
        (toString (i * brightness / 255)).toList ++ [',']).dropLast := by
  rw [getScaledDutyPcts, removeLastChars, String.toList_ofList, ← String.length_toList,
    toList_foldl_ramp (fun i => i * brightness / 255), ← List.dropLast_eq_take]
  rfl

theorem del_free_getScaledDutyPcts (brightness : Nat) :
    ∀ c ∈ (getScaledDutyPcts brightness).toList, del c = false := by
  intro c hc
  rw [toList_getScaledDutyPcts] at hc
  obtain ⟨i, -, hc⟩ := List.mem_flatMap.mp (List.mem_of_mem_dropLast hc)
  rcases List.mem_append.mp hc with hc | hc
  · exact del_free_natCast _ c hc
  · rw [List.mem_singleton.mp hc]
    decide

theorem getScaledDutyPcts_ne_nil (brightness : Nat) :
    (getScaledDutyPcts brightness).toList ≠ [] := by
  intro h
  have hlen := congrArg List.length ((toList_getScaledDutyPcts brightness).symm.trans h)
  rw [List.length_dropLast] at hlen
  simp [brightnessRamp] at hlen

theorem signedFields_ne_nil (n : Int) : signedFields n ≠ [] := by
  rw [signedFields]
  split <;> simp

theorem del_free_signedFields (n : Int) : ∀ f ∈ signedFields n, ∀ c ∈ f, del c = false := by
  rw [signedFields]
  split <;> simpa using del_free_natCast n.natAbs

theorem filter_signedFields (n : Int) :
    (signedFields n).filter (! ·.isEmpty) = [(toString n.natAbs).toList] := by
  rw [signedFields]
  split <;> simp

/-! ## What the daemon makes of a channel value -/

/-- The fields of a channel value, signs apart. -/
def sentFields (mStartIdx value : Nat) (onMs offMs : Int) : List (List Char) :=
  [(toString value).toList, (toString mStartIdx).toList, (getScaledDutyPcts value).toList] ++
    (signedFields offMs ++ (signedFields (mPauseHi onMs) ++ signedFields (mRampStepMs onMs)))

theorem toList_lightValue (mStartIdx value : Nat) (onMs offMs : Int) :
    (lightValue mStartIdx value onMs offMs).toList =
      ['-'].intercalate (sentFields mStartIdx value onMs offMs) := by
  have hon := signedFields_ne_nil (mPauseHi onMs)
  have hramp := signedFields_ne_nil (mRampStepMs onMs)
  rw [sentFields, intercalate_append (by simp) (by simp [hon]),
    intercalate_append (signedFields_ne_nil offMs) (by simp [hon]), intercalate_append hon hramp,
    ← toList_toString_int, ← toList_toString_int, ← toList_toString_int]
  simp [lightValue]

theorem del_free_sentFields (mStartIdx value : Nat) (onMs offMs : Int) :
    ∀ f ∈ sentFields mStartIdx value onMs offMs, ∀ c ∈ f, del c = false := by
  intro f hf
  rcases List.mem_append.mp hf with hf | hf
  · simp only [List.mem_cons, List.not_mem_nil, or_false] at hf
    rcases hf with hf | hf | hf
    · rw [hf]; exact del_free_natCast value
    · rw [hf]; exact del_free_natCast mStartIdx
    · rw [hf]; exact del_free_getScaledDutyPcts value
  · simp only [List.mem_append] at hf
    rcases hf with hf | hf | hf
    · exact del_free_signedFields offMs f hf
    · exact del_free_signedFields (mPauseHi onMs) f hf
    · exact del_free_signedFields (mRampStepMs onMs) f hf

/-- **The daemon gets the six fields that were sent, with the signs gone.** -/
theorem config_lightValue (mStartIdx value : Nat) (onMs offMs : Int) :
    config (lightValue mStartIdx value onMs offMs) =
      [toString value, toString mStartIdx, getScaledDutyPcts value, toString offMs.natAbs,
        toString (mPauseHi onMs).natAbs, toString (mRampStepMs onMs).natAbs] := by
  rw [config, toList_lightValue,
    tokens_intercalate (by decide) (del_free_sentFields mStartIdx value onMs offMs), sentFields]
  simp only [List.filter_append, filter_signedFields]
  simp [getScaledDutyPcts_ne_nil value, Nat.repr_eq_ofList_toDigits]

/-! ## Lengths -/

theorem length_toString_nat_le {n k : Nat} (hk : 0 < k) (hn : n < 10 ^ k) :
    (toString n).length ≤ k :=
  (Nat.length_repr_le_iff hk).mpr hn

theorem length_toString_int_le {n : Int} {k : Nat} (hk : 0 < k) (hn : n.natAbs < 10 ^ k) :
    (toString n).length ≤ k + 1 := by
  have habs := length_toString_nat_le hk hn
  rw [← String.length_toList] at habs ⊢
  rw [toList_toString_int, signedFields]
  split
  · simp only [List.intercalate_cons_cons, List.intercalate_singleton, List.length_append,
      List.length_nil, List.length_singleton]
    omega
  · rw [List.intercalate_singleton]
    omega

/-- Eight numbers of up to three digits, and the commas between them. -/
theorem length_getScaledDutyPcts_le {brightness : Nat} (h : brightness ≤ 255) :
    (getScaledDutyPcts brightness).length ≤ 31 := by
  have hnum : ∀ i ≤ 100, (toString (i * brightness / 255)).toList.length ≤ 3 := by
    intro i hi
    have hprod : i * brightness ≤ 100 * 255 := Nat.mul_le_mul hi h
    rw [String.length_toList]
    exact length_toString_nat_le (by decide) (by omega)
  rw [← String.length_toList, toList_getScaledDutyPcts, List.length_dropLast]
  have h0 := hnum 0 (by decide)
  have h12 := hnum 12 (by decide)
  have h25 := hnum 25 (by decide)
  have h37 := hnum 37 (by decide)
  have h50 := hnum 50 (by decide)
  have h72 := hnum 72 (by decide)
  have h85 := hnum 85 (by decide)
  have h100 := hnum 100 (by decide)
  simp only [brightnessRamp, List.flatMap_cons, List.flatMap_nil, List.length_append,
    List.length_cons, List.length_nil]
  omega

section Durations

variable {onMs offMs : Int}

/-- A 32-bit duration loses nothing when the ramp is taken off it. -/
theorem mPauseHi_eq (hon : -2 ^ 31 ≤ onMs ∧ onMs < 2 ^ 31) :
    mPauseHi onMs = if 800 > onMs then 0 else onMs - 800 := by
  show (if 800 > onMs then 0 else toInt (onMs - 800)) = _
  split
  · rfl
  · exact Int.bmod_eq_of_le (by omega) (by omega)

/-- The ramp step, with Java's division toward zero written out. -/
theorem mRampStepMs_eq (onMs : Int) :
    mRampStepMs onMs =
      if 800 > onMs then if 0 ≤ onMs then onMs / 16 else -(-onMs / 16) else 50 := by
  show (if 800 > onMs then onMs.tdiv 16 else 50) = _
  split
  · split
    · next hpos => exact Int.tdiv_eq_ediv_of_nonneg hpos
    · next hneg =>
        have hpos : 0 ≤ -onMs := by omega
        rw [← Int.tdiv_eq_ediv_of_nonneg hpos, Int.neg_tdiv, Int.neg_neg]
  · rfl

theorem length_lightValue_le {mStartIdx value : Nat} (hidx : mStartIdx ≤ 16) (hvalue : value ≤ 255)
    (hon : -2 ^ 31 ≤ onMs ∧ onMs < 2 ^ 31) (hoff : -2 ^ 31 ≤ offMs ∧ offMs < 2 ^ 31) :
    (lightValue mStartIdx value onMs offMs).length ≤ 91 := by
  have h1 : (toString value).length ≤ 3 := length_toString_nat_le (by decide) (by omega)
  have h2 : (toString mStartIdx).length ≤ 2 := length_toString_nat_le (by decide) (by omega)
  have h3 := length_getScaledDutyPcts_le hvalue
  have h4 : (toString offMs).length ≤ 11 := length_toString_int_le (by decide) (by omega)
  have h5 : (toString (mPauseHi onMs)).length ≤ 11 := by
    rw [mPauseHi_eq hon]
    exact length_toString_int_le (by decide) (by split <;> omega)
  have h6 : (toString (mRampStepMs onMs)).length ≤ 11 := by
    rw [mRampStepMs_eq]
    exact length_toString_int_le (by decide) (by omega)
  have hdash : "-".length = 1 := rfl
  simp only [lightValue, String.length_append, hdash]
  omega

/-! ## Durations that survive -/

theorem durations_survive_iff (hon : -2 ^ 31 ≤ onMs ∧ onMs < 2 ^ 31) :
    ((0 ≤ mPauseHi onMs ∧ 0 ≤ mRampStepMs onMs) ∧
      onMs - 16 < mPauseHi onMs + 16 * mRampStepMs onMs ∧
      mPauseHi onMs + 16 * mRampStepMs onMs ≤ onMs) ↔ 0 ≤ onMs := by
  rw [mPauseHi_eq hon, mRampStepMs_eq]
  omega

theorem toString_natAbs_eq {n : Int} (h : 0 ≤ n) : toString n.natAbs = toString n := by
  obtain ⟨m, rfl⟩ := Int.eq_ofNat_of_zero_le h
  rfl

end Durations

/-! ## Rules -/

/-- The start index of a channel's ramp. -/
def Channel.mStartIdx : Channel → Nat
  | .red => 0
  | .green => rampSize
  | .blue => 2 * rampSize

def Channel.value (color : BitVec 32) : Channel → Nat
  | .red => LedLightManager.red color
  | .green => LedLightManager.green color
  | .blue => LedLightManager.blue color

/-- The property of a channel. -/
def Channel.light (p : LightProps) : Channel → String
  | .red => p.redLight
  | .green => p.greenLight
  | .blue => p.blueLight

/-- The value of a channel property fits, and the daemon gets from it what was meant: six numbers or
lists of numbers, none negative, whose ramp and pause last for `onMs`, up to the rounding of the
ramp step. -/
structure Arrives (ch : Channel) (color : BitVec 32) (onMs offMs : Int) (light : String) :
    Prop where
  fits : light.length ≤ 91
  tokens : config light = [toString (ch.value color), toString ch.mStartIdx,
    getScaledDutyPcts (ch.value color), toString offMs, toString (mPauseHi onMs),
    toString (mRampStepMs onMs)]
  nonneg : 0 ≤ offMs ∧ 0 ≤ mPauseHi onMs ∧ 0 ≤ mRampStepMs onMs
  period : onMs - 16 < mPauseHi onMs + 16 * mRampStepMs onMs ∧
    mPauseHi onMs + 16 * mRampStepMs onMs ≤ onMs

theorem Channel.value_le (ch : Channel) (color : BitVec 32) : ch.value color ≤ 255 := by
  cases ch <;> exact Nat.le_of_lt_succ (BitVec.isLt _)

theorem Channel.light_lightProps (ch : Channel) (blink : Bool) (color : BitVec 32)
    (onMs offMs : Int) :
    ch.light (lightProps blink color onMs offMs) =
      lightValue ch.mStartIdx (ch.value color) onMs offMs := by
  cases ch <;> rfl

theorem arrives_iff {ch : Channel} {color : BitVec 32} {onMs offMs : Int}
    (hon : -2 ^ 31 ≤ onMs ∧ onMs < 2 ^ 31) (hoff : -2 ^ 31 ≤ offMs ∧ offMs < 2 ^ 31) :
    Arrives ch color onMs offMs (lightValue ch.mStartIdx (ch.value color) onMs offMs) ↔
      0 ≤ onMs ∧ 0 ≤ offMs := by
  have hdur := durations_survive_iff hon
  constructor
  · -- the length and the tokens are not needed: a negative duration shows in the numbers
    intro h
    exact ⟨hdur.mp ⟨h.nonneg.2, h.period⟩, h.nonneg.1⟩
  · rintro ⟨hon0, hoff0⟩
    obtain ⟨⟨hpause, hramp⟩, hperiod⟩ := hdur.mpr hon0
    refine ⟨length_lightValue_le ?_ (ch.value_le color) hon hoff, ?_, ⟨hoff0, hpause, hramp⟩,
      hperiod⟩
    · cases ch <;> decide
    · rw [config_lightValue, toString_natAbs_eq hoff0, toString_natAbs_eq hpause,
        toString_natAbs_eq hramp]

/-- **A rule of the configuration file arrives at the daemon as it was written, on every channel,
exactly if neither of its durations is negative.** -/
theorem rule_round_trips_iff (s : State) (line : String) :
    ∀ r color onMs offMs, parseLine line = .ok r → parseColor ("#" ++ r.color) = .ok color →
      valueOf r.onMs = .ok onMs → valueOf r.offMs = .ok offMs →
      ∃ s', setColor s r.command = .ok s' ∧ ∀ ch : Channel,
        (Arrives ch color onMs offMs (ch.light s'.lightProps) ↔ 0 ≤ onMs ∧ 0 ≤ offMs) := by
  intro r color onMs offMs _ hcolor hon hoff
  refine ⟨_, setColor_eq s hcolor hon hoff, ?_⟩
  intro ch
  show Arrives ch color onMs offMs (ch.light (lightProps r.blink color onMs offMs)) ↔ _
  rw [Channel.light_lightProps]
  exact arrives_iff (valueOf_range hon) (valueOf_range hoff)

/-- A ramp shortened to half a second arrives. -/
theorem rule_round_trips_half_second :
    ∃ s', setColor (.created (.withConfig "")) ⟨"FF8000", true, "500", "700"⟩ = .ok s' ∧
      ∀ ch : Channel, Arrives ch 0xffff8000#32 500 700 (ch.light s'.lightProps) := by
  obtain ⟨s', hset, harrives⟩ := rule_round_trips_iff (.created (.withConfig ""))
    "app,,FF8000,blink,500,700" ⟨"app", "", "FF8000", true, "500", "700"⟩ 0xffff8000#32 500 700
    (by decide) (by decide) (by decide) (by decide)
  exact ⟨s', hset, fun ch => (harrives ch).mpr (by decide)⟩

/-- A negative pause loses its sign, and is taken for a positive one. -/
theorem negative_pause_changes_sign :
    ∃ r s', parseLine "app,,FF0000,blink,1000,-5" = .ok r ∧
      valueOf r.onMs = .ok 1000 ∧ valueOf r.offMs = .ok (-5) ∧
      setColor (.created (.withConfig "")) r.command = .ok s' ∧
      config s'.lightProps.redLight =
        ["255", "0", "0,12,25,37,50,72,85,100", "5", "200", "50"] ∧
      ¬ Arrives .red 0xffff0000#32 1000 (-5) s'.lightProps.redLight := by
  have hcolor : parseColor ("#" ++ "FF0000") = .ok 0xffff0000#32 := by decide
  have hon : valueOf "1000" = .ok 1000 := by decide
  have hoff : valueOf "-5" = .ok (-5) := by decide
  refine ⟨⟨"app", "", "FF0000", true, "1000", "-5"⟩, _, by decide, hon, hoff,
    setColor_eq _ hcolor hon hoff, by decide +kernel, ?_⟩
  intro h
  exact absurd h.nonneg.1 (by decide)

end VendorRs.LightDaemon
