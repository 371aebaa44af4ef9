import SimEngine.Engine.TickLoop
import SimEngine.Proofs.Reciprocals

/-!
# The time between two calls

A loop is configured by rates per second: of its steps, and of its scene
updates.  Any positive rate is accepted.  The time between two calls is the
inverse of the rate, computed as a double and rounded to whole nanoseconds, so
that it depends on the size of the rate whether there is such a time at all.

**Definitions.**
* `Period`: the time between two calls, by the exact value of the rate.
* `TickConfig.Startable`: whether both rates leave a time between two calls.

**Results.**
* `Duration.nanosOf_pos_iff`: which times are rounded to nothing.
* `period_of_pos`: the time between two calls, for each positive rate.
* `accepted_periods`: the configurations that can be written, and what becomes
  of a loop.
* `accepted_without_period`: configurations that are accepted to no use.
-/

namespace SimEngine

namespace Duration

section Quotients

variable {a b c : Nat}

theorem roundQuotient_le (hb : 0 < b) (h : a ≤ c * b) : roundQuotient a b ≤ c := by
  have hdiv := Nat.div_add_mod a b
  have hmod := Nat.mod_lt a hb
  have hle : a / b ≤ c := Nat.div_le_of_le_mul (by rwa [mul_comm])
  rcases hle.lt_or_eq with hlt | heq
  · rw [roundQuotient]
    split_ifs <;> omega
  · have hrest : a % b = 0 := by
      rw [heq, mul_comm] at hdiv
      omega
    simp [roundQuotient, hrest, heq, hb]

theorem le_roundQuotient (hb : 0 < b) (h : c * b ≤ a) : c ≤ roundQuotient a b := by
  have hle : c ≤ a / b := (Nat.le_div_iff_mul_le hb).2 h
  rw [roundQuotient]
  split_ifs <;> omega

/-- A quotient is rounded to zero up to a half. -/
theorem roundQuotient_pos_iff (hb : 0 < b) : 0 < roundQuotient a b ↔ b < 2 * a := by
  have hdiv := Nat.div_add_mod a b
  have hmod := Nat.mod_lt a hb
  rcases Nat.eq_zero_or_pos (a / b) with hzero | hpos
  · rw [hzero, mul_zero, zero_add] at hdiv
    rw [roundQuotient, hzero, hdiv]
    split_ifs <;> omega
  · have hle : b ≤ a := (Nat.div_pos_iff.1 hpos).2
    have hone : 1 ≤ roundQuotient a b := le_roundQuotient hb (by omega)
    omega

end Quotients

/-- The nanoseconds of a number of seconds that is not negative, rounded. -/
def nanosOf (b : Binary) : Nat :=
  if 0 ≤ b.exponent then b.mantissa * Nat.pow 2 b.exponent.toNat * Nat.pow 10 9
  else roundQuotient (b.mantissa * Nat.pow 10 9) (Nat.pow 2 (-b.exponent).toNat)

theorem ofSeconds?_eq {y : Float} (hnan : y.isNaN = false) (hinf : y.isInf = false)
    (hsign : (Binary.ofFloat y).negative = false) :
    ofSeconds? y = ofNanos? (nanosOf (Binary.ofFloat y)) := by
  have hfinite : ¬ (y.isNaN || y.isInf) = true := by
    rw [hnan, hinf]
    decide
  have hpositive : ¬ ((Binary.ofFloat y).negative &&
      decide ((Binary.ofFloat y).mantissa ≠ 0)) = true := by
    rw [hsign]
    exact Bool.false_ne_true
  rw [ofSeconds?, if_neg hfinite, nanosOf]
  simp only
  rw [if_neg hpositive, apply_ite ofNanos?]

theorem ofSeconds?_of_infinite {y : Float} (h : y.isInf = true) : ofSeconds? y = none := by
  rw [ofSeconds?, if_pos (by rw [h, Bool.or_true])]

section Nanos

variable (b : Binary)

/-- A number of seconds, as a whole multiple or a quotient. -/
theorem magnitude_cases :
    (0 ≤ b.exponent ∧ b.magnitude = (b.mantissa * 2 ^ b.exponent.toNat : Nat)) ∨
    (b.exponent < 0 ∧ b.magnitude = b.mantissa / (2 ^ (-b.exponent).toNat : Nat)) := by
  rcases le_or_gt 0 b.exponent with h | h
  · refine Or.inl ⟨h, ?_⟩
    obtain ⟨n, hn⟩ := Int.eq_ofNat_of_zero_le h
    rw [Binary.magnitude, dyadic, hn]
    push_cast
    simp
  · refine Or.inr ⟨h, ?_⟩
    obtain ⟨n, hn⟩ := Int.eq_ofNat_of_zero_le (show 0 ≤ -b.exponent by omega)
    have hexp : b.exponent = -n := by omega
    rw [Binary.magnitude, dyadic, hexp]
    simp [zpow_neg, div_eq_mul_inv]

theorem nanosOf_le {c : Nat} (h : b.magnitude ≤ c) : nanosOf b ≤ c * 10 ^ 9 := by
  rw [nanosOf]
  rcases magnitude_cases b with ⟨hsign, hvalue⟩ | ⟨hsign, hvalue⟩
  · rw [hvalue, Nat.cast_le] at h
    rw [if_pos hsign]
    exact Nat.mul_le_mul_right _ h
  · have hpow : 0 < 2 ^ (-b.exponent).toNat := Nat.two_pow_pos _
    rw [hvalue, div_le_iff₀ (by exact_mod_cast hpow)] at h
    rw [if_neg (not_le.2 hsign)]
    refine roundQuotient_le hpow ?_
    have h' : b.mantissa ≤ c * 2 ^ (-b.exponent).toNat := by exact_mod_cast h
    calc b.mantissa * 10 ^ 9 ≤ c * 2 ^ (-b.exponent).toNat * 10 ^ 9 := Nat.mul_le_mul_right _ h'
      _ = c * 10 ^ 9 * 2 ^ (-b.exponent).toNat := by ring

theorem le_nanosOf {c : Nat} (h : (c : ℚ) ≤ b.magnitude) : c * 10 ^ 9 ≤ nanosOf b := by
  rw [nanosOf]
  rcases magnitude_cases b with ⟨hsign, hvalue⟩ | ⟨hsign, hvalue⟩
  · rw [hvalue, Nat.cast_le] at h
    rw [if_pos hsign]
    exact Nat.mul_le_mul_right _ h
  · have hpow : 0 < 2 ^ (-b.exponent).toNat := Nat.two_pow_pos _
    rw [hvalue, le_div_iff₀ (by exact_mod_cast hpow)] at h
    rw [if_neg (not_le.2 hsign)]
    refine le_roundQuotient hpow ?_
    have h' : c * 2 ^ (-b.exponent).toNat ≤ b.mantissa := by exact_mod_cast h
    calc c * 10 ^ 9 * 2 ^ (-b.exponent).toNat = c * 2 ^ (-b.exponent).toNat * 10 ^ 9 := by ring
      _ ≤ b.mantissa * 10 ^ 9 := Nat.mul_le_mul_right _ h'

/-- A number of seconds is rounded to no time at all up to half a nanosecond. -/
theorem nanosOf_pos_iff : 0 < nanosOf b ↔ 1 < 2 * 10 ^ 9 * b.magnitude := by
  rw [nanosOf]
  rcases magnitude_cases b with ⟨hsign, hvalue⟩ | ⟨hsign, hvalue⟩
  · rw [if_pos hsign, hvalue]
    constructor
    · intro hpos
      have hone : 1 ≤ b.mantissa * 2 ^ b.exponent.toNat := Nat.pos_of_mul_pos_right hpos
      have : (1 : ℚ) ≤ (b.mantissa * 2 ^ b.exponent.toNat : Nat) := by exact_mod_cast hone
      linarith
    · intro hlt
      refine Nat.mul_pos (Nat.pos_of_ne_zero fun hzero => ?_) (by decide)
      have hzero' : b.mantissa * 2 ^ b.exponent.toNat = 0 := hzero
      rw [hzero', Nat.cast_zero, mul_zero] at hlt
      exact absurd hlt (by norm_num)
  · have hpow : 0 < 2 ^ (-b.exponent).toNat := Nat.two_pow_pos _
    simp only [if_neg (not_le.2 hsign), hvalue, Nat.pow_eq]
    rw [roundQuotient_pos_iff hpow, ← mul_div_assoc, lt_div_iff₀ (by exact_mod_cast hpow),
      one_mul, ← @Nat.cast_lt ℚ]
    push_cast
    constructor <;> intro hlt <;> linarith

end Nanos

end Duration

/--
The time between two of the calls that come at a rate per second, as it depends on the exact value
of the rate: too long for a span, longer than no time at all, or rounded to no time at all.
-/
structure Period (rate : ℚ) (period : Option Duration) : Prop where
  slow : rate ≤ (2 ^ 64)⁻¹ → period = none
  usable : (2 ^ 64)⁻¹ < rate → rate ≤ 2 * 10 ^ 9 → ∃ d, period = some d ∧ 0 < d.nanos
  fast : 2 * 10 ^ 9 < rate → period = some .zero

namespace Period

variable {x : Float} {m : Nat} {e : Int} {hm : 0 < m}

/-- A rate whose inverse is too great leaves no span. -/
theorem none_of_slow (hx : x.toModel.unpack = .finite .positive m e hm)
    (hslow : dyadic m e ≤ dyadic (2 ^ 52) (-116)) : Duration.ofSeconds? (1.0 / x) = none := by
  have hnear := nearby_inverse hx
  have hgreat : dyadic (2 ^ 52) 12 ≤ (dyadic m e)⁻¹ :=
    le_inverse (k := 104) hm hslow (by decide) (by decide)
  cases hinf : (1.0 / x).isInf with
  | true =>
      exact Duration.ofSeconds?_of_infinite hinf
  | false =>
      have hvalue := (hnear.below (Canonical.of_full le_rfl (by decide) (by decide) (by decide))
        hgreat).resolve_left (by simp [hinf])
      have hnanos : Nat.pow 2 64 * Nat.pow 10 9 ≤ Duration.nanosOf (Binary.ofFloat (1.0 / x)) := by
        refine Duration.le_nanosOf _ (le_trans (le_of_eq ?_) hvalue)
        norm_num [dyadic]
      rw [Duration.ofSeconds?_eq hnear.notNaN hinf hnear.negative, Duration.ofNanos?,
        dif_neg (not_lt.2 hnanos)]

/-- A rate that is great enough leaves a span of so many nanoseconds. -/
theorem some_of_fine (hx : x.toModel.unpack = .finite .positive m e hm)
    (hfine : dyadic (2 ^ 52) (-116) < dyadic m e) :
    ∃ d, Duration.ofSeconds? (1.0 / x) = some d ∧ (1.0 / x).isInf = false ∧
      d.nanos = Duration.nanosOf (Binary.ofFloat (1.0 / x)) := by
  have hnear := nearby_inverse hx
  have hnext : dyadic (2 ^ 52 + 1) (-116) ≤ dyadic m e :=
    (Canonical.of_full le_rfl (by decide) (by decide) (by decide)).succ_le
      (ofFloat_of_unpack hx).2 hfine
  have hsmall : (dyadic m e)⁻¹ < dyadic (2 ^ 53 - 1) 11 :=
    inverse_lt (k := 105) hm hnext (by decide) (by decide)
  obtain ⟨hinf, hvalue⟩ :=
    hnear.above (Canonical.of_full (by decide) (by decide) (by decide) (by decide)) hsmall
  have hnanos : Duration.nanosOf (Binary.ofFloat (1.0 / x)) ≤ (2 ^ 64 - 1) * 10 ^ 9 := by
    refine Duration.nanosOf_le _ (hvalue.trans ?_)
    norm_num [dyadic]
  have hrange : Duration.nanosOf (Binary.ofFloat (1.0 / x)) < Nat.pow 2 64 * Nat.pow 10 9 :=
    lt_of_le_of_lt hnanos (by decide)
  refine ⟨⟨_, hrange⟩, ?_, hinf, rfl⟩
  rw [Duration.ofSeconds?_eq hnear.notNaN hinf hnear.negative, Duration.ofNanos?, dif_pos hrange]

/-- Two thousand million per second, as a double. -/
def fastest : Nat := 2 * 10 ^ 9 * 2 ^ 22

/-- The double next above half a nanosecond. -/
def shortest : Nat := 4835703278458517

theorem nanosOf_pos {b : Binary} (h : dyadic shortest (-83) ≤ b.magnitude) :
    0 < Duration.nanosOf b := by
  rw [Duration.nanosOf_pos_iff]
  refine lt_of_lt_of_le ?_ (mul_le_mul_of_nonneg_left h (by norm_num))
  norm_num [dyadic, shortest]

theorem nanosOf_eq_zero {b : Binary} (h : b.magnitude ≤ dyadic (shortest - 1) (-83)) :
    Duration.nanosOf b = 0 := by
  rw [← Nat.le_zero, ← not_lt, Duration.nanosOf_pos_iff, not_lt]
  refine (mul_le_mul_of_nonneg_left h (by norm_num)).trans ?_
  norm_num [dyadic, shortest]

/-- At the greatest rate that leaves a span, the quotient is rounded upwards. -/
theorem at_fastest :
    ∃ d, Duration.ofSeconds? (inverseOf (.finite .positive fastest (-22) (by decide))) = some d ∧
      d.nanos = 1 :=
  ⟨⟨1, by decide⟩, by decide +kernel, rfl⟩

/-- At the double after it, the quotient is rounded downwards. -/
theorem after_fastest :
    Duration.ofSeconds? (inverseOf (.finite .positive (fastest + 1) (-22) (by decide))) =
      some .zero := by
  decide +kernel

theorem canonical_fastest : Canonical fastest (-22) :=
  Canonical.of_full (by decide) (by decide) (by decide) (by decide)

/-- A rate of no more than two thousand million leaves a span, unless it is too small. -/
theorem positive_of_usable (hx : x.toModel.unpack = .finite .positive m e hm)
    (hfine : dyadic (2 ^ 52) (-116) < dyadic m e) (hle : dyadic m e ≤ dyadic fastest (-22)) :
    ∃ d, Duration.ofSeconds? (1.0 / x) = some d ∧ 0 < d.nanos := by
  have hcanonical := (ofFloat_of_unpack hx).2
  rcases hle.lt_or_eq with hlt | heq
  · obtain ⟨d, hd, hinf, hnanos⟩ := some_of_fine hx hfine
    -- The rate is at most the double before the fastest, whose inverse is above the shortest span.
    have hprevious : dyadic m e ≤ dyadic (fastest - 1) (-22) := by
      by_contra hgt
      have hcanonical' : Canonical (fastest - 1) (-22) :=
        Canonical.of_full (by decide) (by decide) (by decide) (by decide)
      exact absurd (hlt.trans_le (hcanonical'.succ_le hcanonical (not_le.1 hgt))) (lt_irrefl _)
    have hinverse : dyadic shortest (-83) ≤ (dyadic m e)⁻¹ :=
      le_inverse (k := 105) hm hprevious (by decide) (by decide)
    have hvalue := ((nearby_inverse hx).below
      (Canonical.of_full (by decide) (by decide) (by decide) (by decide)) hinverse).resolve_left
        (by simp [hinf])
    exact ⟨d, hd, hnanos ▸ nanosOf_pos hvalue⟩
  · obtain ⟨rfl, rfl⟩ := hcanonical.ext canonical_fastest (by decide) heq
    rw [one_div_eq, hx]
    obtain ⟨d, hd, hnanos⟩ := at_fastest
    exact ⟨d, hd, by omega⟩

/-- A rate above two thousand million leaves no time at all. -/
theorem zero_of_fast (hx : x.toModel.unpack = .finite .positive m e hm)
    (hlt : dyadic fastest (-22) < dyadic m e) : Duration.ofSeconds? (1.0 / x) = some .zero := by
  have hcanonical := (ofFloat_of_unpack hx).2
  have hnext := canonical_fastest.succ_le hcanonical hlt
  have hcanonical' : Canonical (fastest + 1) (-22) :=
    Canonical.of_full (by decide) (by decide) (by decide) (by decide)
  rcases hnext.lt_or_eq with hlt' | heq
  · have hfine : dyadic (2 ^ 52) (-116) < dyadic m e :=
      (dyadic_lt_of_full (by decide) (by decide) (by decide)).trans hlt
    obtain ⟨d, hd, hinf, hnanos⟩ := some_of_fine hx hfine
    have hinverse : (dyadic m e)⁻¹ < dyadic (shortest - 1) (-83) :=
      inverse_lt (k := 105) hm (hcanonical'.succ_le hcanonical hlt') (by decide) (by decide)
    have hvalue := ((nearby_inverse hx).above
      (Canonical.of_full (by decide) (by decide) (by decide) (by decide)) hinverse).2
    have hzero : d = .zero := by
      rw [nanosOf_eq_zero hvalue] at hnanos
      cases d
      cases hnanos
      rfl
    rw [hd, hzero]
  · obtain ⟨hm', he⟩ := hcanonical.ext hcanonical' (by decide) heq.symm
    subst hm' he
    rw [one_div_eq, hx]
    exact after_fastest

end Period

/-- **The time between two calls**, for each positive rate. -/
theorem period_of_pos {x : Float} (h : x > 0.0) :
    Period (Binary.ofFloat x).magnitude (Duration.ofSeconds? (1.0 / x)) := by
  have hslowest : ((2 : ℚ) ^ 64)⁻¹ = dyadic (2 ^ 52) (-116) := by
    norm_num [dyadic]
  have hfastest : (2 * 10 ^ 9 : ℚ) = dyadic Period.fastest (-22) := by
    norm_num [dyadic, Period.fastest]
  rcases unpack_of_pos h with hinf | ⟨m, e, hm, hx⟩
  · rw [one_div_eq, hinf, ofFloat_of_infinity hinf]
    have hbeyond : dyadic Period.fastest (-22) < dyadic (2 ^ 52) 972 :=
      dyadic_lt_of_full (by decide) le_rfl (by decide)
    have hslow : dyadic (2 ^ 52) (-116) < dyadic (2 ^ 52) 972 :=
      dyadic_lt_of_full (by decide) le_rfl (by decide)
    refine ⟨fun hle => ?_, fun _ hle => ?_, fun _ => by decide +kernel⟩
    · exact absurd (hslowest ▸ hle) (not_le.2 hslow)
    · exact absurd (hfastest ▸ hle) (not_le.2 hbeyond)
  · have hvalue : (Binary.ofFloat x).magnitude = dyadic m e := by
      rw [(ofFloat_of_unpack hx).1]
      rfl
    rw [hvalue]
    refine ⟨fun hle => ?_, fun hlt hle => ?_, fun hlt => ?_⟩
    · exact Period.none_of_slow hx (hslowest ▸ hle)
    · exact Period.positive_of_usable hx (hslowest ▸ hlt) (hfastest ▸ hle)
    · exact Period.zero_of_fast hx (hfastest ▸ hlt)

theorem TickLoop.nextInfo_of_fresh {G : Guest} (t : TickLoop G) (hlast : t.last = none) :
    t.nextInfo =
      match t.config.stepDuration? with
      | none => .error .rateOutOfRange
      | some dt => .ok { StepInfo.first dt with paused := t.isPaused } := by
  cases hduration : t.config.stepDuration? <;> simp only [nextInfo, hlast, hduration]

/-- Whether a loop can be given both of its periods, each longer than no time at all. -/
def TickConfig.Startable (c : TickConfig) : Prop :=
  (∃ step, c.stepDuration? = some step ∧ 0 < step.nanos) ∧
    ∃ interval, c.renderInterval? = some interval ∧ 0 < interval.nanos

theorem Period.usable_iff {rate : ℚ} {period : Option Duration} (h : Period rate period) :
    (∃ d, period = some d ∧ 0 < d.nanos) ↔ (2 ^ 64)⁻¹ < rate ∧ rate ≤ 2 * 10 ^ 9 := by
  constructor
  · rintro ⟨d, rfl, hpos⟩
    constructor
    · by_contra hslow
      cases h.slow (not_lt.1 hslow)
    · by_contra hfast
      cases h.fast (not_le.1 hfast)
      exact absurd hpos (lt_irrefl 0)
  · rintro ⟨hlow, hhigh⟩
    exact h.usable hlow hhigh

theorem EngineConfig.rates_of_ofText {text : String} {config : EngineConfig}
    (h : EngineConfig.ofText text = .ok config) :
    config.tick.tickRate > 0.0 ∧ config.tick.renderRate > 0.0 := by
  rw [ofText] at h
  split at h
  · rw [validate] at h
    split at h
    · cases h
    · split at h
      · cases h
      · cases h
        simp_all
  · cases h

/--
**What the accepted rates leave.**  Each accepted rate is positive, but only one above `2 ^ (-64)`
and up to `2 * 10 ^ 9` leaves a span of time between two calls.  At a lower one the span cannot be
told, and a loop fails before its first tick; at a higher one it is no time at all, and a loop that
waits between its ticks fails.
-/
theorem accepted_periods {text : String} {config : EngineConfig}
    (h : EngineConfig.ofText text = .ok config) :
    Period (Binary.ofFloat config.tick.tickRate).magnitude config.tick.stepDuration? ∧
    Period (Binary.ofFloat config.tick.renderRate).magnitude config.tick.renderInterval? ∧
    (config.tick.Startable ↔
      ((2 ^ 64)⁻¹ < (Binary.ofFloat config.tick.tickRate).magnitude ∧
        (Binary.ofFloat config.tick.tickRate).magnitude ≤ 2 * 10 ^ 9) ∧
      (2 ^ 64)⁻¹ < (Binary.ofFloat config.tick.renderRate).magnitude ∧
        (Binary.ofFloat config.tick.renderRate).magnitude ≤ 2 * 10 ^ 9) ∧
    ∀ {G : Guest} (b : Behavior G) (t : TickLoop G) (bound : Nat),
      t.config = config.tick → t.last = none →
      ((Binary.ofFloat config.tick.tickRate).magnitude ≤ (2 ^ 64)⁻¹ →
        t.tick b = .error .rateOutOfRange ∧ t.run b bound = (.failed .rateOutOfRange, t) ∧
        t.runAsync b bound = (.failed .rateOutOfRange, t)) ∧
      (2 * 10 ^ 9 < (Binary.ofFloat config.tick.tickRate).magnitude →
        t.runAsync b bound = (.failed .emptyPeriod, t)) ∧
      (config.tick.Startable →
        (∃ report t', t.tick b = .ok (report, t')) ∧
        t.run b bound = t.tickUntilFinished b bound ∧
        (t.runAsync b bound).1 = (t.tickUntilFinished b bound).1) := by
  obtain ⟨htick, hrender⟩ := EngineConfig.rates_of_ofText h
  have hstep : Period (Binary.ofFloat config.tick.tickRate).magnitude config.tick.stepDuration? :=
    period_of_pos htick
  have hinterval : Period (Binary.ofFloat config.tick.renderRate).magnitude
      config.tick.renderInterval? := period_of_pos hrender
  refine ⟨hstep, hinterval, and_congr hstep.usable_iff hinterval.usable_iff, ?_⟩
  intro G b t bound hconfig hlast
  refine ⟨fun hslow => ?_, fun hfast => ?_, ?_⟩
  · have hnone := hstep.slow hslow
    refine ⟨?_, ?_, ?_⟩
    · rw [TickLoop.tick, t.nextInfo_of_fresh hlast, hconfig, hnone]
    · rw [TickLoop.run, hconfig, hnone]
    · rw [TickLoop.runAsync, hconfig, hnone]
  · rw [TickLoop.runAsync, hconfig, hstep.fast hfast]
    rfl
  · rintro ⟨⟨step, hsome, hpos⟩, interval, hsome', -⟩
    refine ⟨?_, ?_, ?_⟩
    · rw [TickLoop.tick, t.nextInfo_of_fresh hlast, hconfig, hsome]
      exact ⟨_, _, rfl⟩
    · rw [TickLoop.run, hconfig, hsome]
    · rw [TickLoop.runAsync, hconfig, hsome, hsome']
      simp only [if_neg hpos.ne', Option.isNone_some]
      rcases t.tickUntilFinished b bound with ⟨ending, t'⟩
      cases ending <;> rfl

theorem exists_of_toOption_map {ε α β : Type} {r : Except ε α} {f : α → β} {v : β}
    (h : r.toOption.map f = some v) : ∃ a, r = .ok a ∧ f a = v := by
  cases r with
  | error e =>
      cases h
  | ok a =>
      exact ⟨a, rfl, Option.some.inj h⟩

/-- A configuration at the greatest rate of steps, and at a rate of scene updates too small. -/
def EngineConfig.edgeText : String :=
  "\x7b\"tick\": \x7b\"tick_rate\": 2e9, \"render_rate\": 5e-20\x7d\x7d"

theorem accepted_periods_edge :
    ∃ config, EngineConfig.ofText EngineConfig.edgeText = .ok config ∧
      (∃ d, config.tick.stepDuration? = some d ∧ 0 < d.nanos) ∧
      config.tick.renderInterval? = none ∧ ¬ config.tick.Startable := by
  have hread : (EngineConfig.ofText EngineConfig.edgeText).toOption.map (fun c =>
      (Binary.ofFloat c.tick.tickRate, Binary.ofFloat c.tick.renderRate)) =
      some (⟨false, 8388608000000000, -22⟩, ⟨false, 8307674973655724, -117⟩) := by
    decide +kernel
  obtain ⟨config, hmade, hrates⟩ := exists_of_toOption_map hread
  obtain ⟨hstep, hinterval⟩ := Prod.mk.inj hrates
  obtain ⟨htick, hrender, hboth, -⟩ := accepted_periods hmade
  rw [hstep] at htick
  rw [hinterval] at hrender hboth
  have hslow : Binary.magnitude ⟨false, 8307674973655724, -117⟩ ≤ (2 ^ 64)⁻¹ := by
    norm_num [Binary.magnitude, dyadic]
  refine ⟨config, hmade, htick.usable ?_ ?_, hrender.slow hslow, fun h => ?_⟩
  · norm_num [Binary.magnitude, dyadic]
  · norm_num [Binary.magnitude, dyadic]
  · exact absurd (hboth.1 h).2.1 (not_lt.2 hslow)

/-- A configuration that asks for four thousand million steps per second. -/
def EngineConfig.hastyText : String :=
  "\x7b\"tick\": \x7b\"tick_rate\": 4e9\x7d\x7d"

/-- A configuration that asks for hardly any step. -/
def EngineConfig.sluggishText : String :=
  "\x7b\"tick\": \x7b\"tick_rate\": 1e-300\x7d\x7d"

/-- Two accepted configurations: the rate of one leaves no time, that of the other no span. -/
theorem accepted_without_period :
    (∃ config, EngineConfig.ofText EngineConfig.hastyText = .ok config ∧
      config.tick.stepDuration? = some .zero) ∧
    (∃ config, EngineConfig.ofText EngineConfig.sluggishText = .ok config ∧
      config.tick.stepDuration? = none) ∧
    ¬ ∀ text config, EngineConfig.ofText text = .ok config → config.tick.Startable := by
  have hhasty : (EngineConfig.ofText EngineConfig.hastyText).toOption.map (·.tick.stepDuration?) =
      some (some .zero) := by decide +kernel
  have hsluggish : (EngineConfig.ofText EngineConfig.sluggishText).toOption.map
      (·.tick.stepDuration?) = some none := by decide +kernel
  have hfast := exists_of_toOption_map hhasty
  refine ⟨hfast, exists_of_toOption_map hsluggish, fun h => ?_⟩
  obtain ⟨config, hmade, hzero⟩ := hfast
  obtain ⟨⟨step, hstep, hpos⟩, -⟩ := h _ _ hmade
  obtain rfl : Duration.zero = step := Option.some.inj (hzero.symm.trans hstep)
  exact absurd hpos (lt_irrefl 0)

end SimEngine
