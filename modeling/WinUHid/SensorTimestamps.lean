import WinUHid.InputReports
import Mathlib.Algebra.Order.Field.Basic
import Mathlib.Algebra.Order.Field.Rat
import Mathlib.Algebra.BigOperators.Group.List.Basic
import Mathlib.Algebra.Order.BigOperators.Group.List
import Mathlib.Tactic.FieldSimp
import Mathlib.Tactic.Linarith
import Mathlib.Tactic.Ring

namespace WinUHid

/-- A gamepad after a number of reports: the ones submitted and, without a report of their own, the
ones that answer reads; each with its reading of `QueryPerformanceCounter`. -/
def afterReports {S : Type} (P : HandOff.Place S Int64 GamepadReport) (g : S)
    (reports : List (Option GamepadReport × Int64)) : S :=
  reports.foldl (fun g r => P.prepare (r.1.elim g (P.load g)) r.2) g

/-- With a number of whole turns, the timestamp is at most one unit off the time that has passed. -/
def TracksTime (unit modulus : Nat) (f t₀ tn : Int64) (timestamp : Nat) : Prop :=
  ∃ n : Int, n % modulus = timestamp ∧
    |(n : ℚ) - ((tn.toInt - t₀.toInt : Int) : ℚ) * 10 ^ 9 / (f.toInt : ℚ) / unit| ≤ 1

/-- The ticks between each reading and the one before. -/
def gaps : Int64 → List Int64 → List Int
  | _, [] => []
  | last, now :: ts => (now.toInt - last.toInt) :: gaps now ts

/-- Within one scale of a whole number of turns -/
def NearTurns (scale turn amount : Int) : Prop := ∃ k : Int, |amount - k * turn| ≤ scale

/-- How many times 2^64 has to be taken from the billionths of a tick in a gap for a signed 64-bit
number. -/
def wraps (gap : Int) : Int := (gap * 1000000000 + 2 ^ 63) / 2 ^ 64

/-- What the wraps and the whole units leave of a gap. -/
def rest (scale gap : Int) : Int := (gap * 1000000000 - 2 ^ 64 * wraps gap).tmod scale

/-- The frequency and the readings under which a timestamp keeps the time. Where each gap has fewer
than 2^63 billionths of a tick, their remainders by one unit come to at most one unit. Otherwise the
wraps and the rests of the gaps come, at each report, to at most one unit more or less than a number
of whole turns of the timestamp. -/
def KeepsTime (unit modulus : Nat) (f t₀ : Int64) (ts : List Int64) : Prop :=
  if ∀ gap ∈ gaps t₀ ts, gap * 1000000000 < 2 ^ 63 then
    ((gaps t₀ ts).map fun gap => gap * 1000000000 % (f.toInt * unit)).sum ≤ f.toInt * unit
  else ∀ n ≤ ts.length, NearTurns (f.toInt * unit) (modulus * (f.toInt * unit))
    (2 ^ 64 * (((gaps t₀ ts).take n).map wraps).sum +
      (((gaps t₀ ts).take n).map (rest (f.toInt * unit))).sum)

section Remainders

variable {scale turn : Int} {rs : List Int}

theorem not_nearTurns {amount total : Int} (h : amount % turn = total) (above : scale < total)
    (below : total < turn - scale) : ¬NearTurns scale turn amount := by
  rintro ⟨k, near⟩
  have hscale : 0 ≤ scale := (abs_nonneg _).trans near
  have hturn : 0 ≤ turn := by omega
  have split := Int.mul_ediv_add_emod amount turn
  rw [abs_le] at near
  rcases Int.lt_or_le k (amount / turn + 1) with hk | hk
  · have fewer : k * turn ≤ amount / turn * turn := by gcongr; omega
    linarith [near.2]
  · have more : (amount / turn + 1) * turn ≤ k * turn := by gcongr
    linarith [near.1]

/-- Amounts below one scale never get round a turn without standing apart from it at some time. -/
theorem forall_nearTurns_iff (wide : 3 * scale ≤ turn) (small : ∀ r ∈ rs, 0 ≤ r ∧ r < scale)
    (positive : 0 < scale) :
    (∀ n ≤ rs.length, NearTurns scale turn (rs.take n).sum) ↔ rs.sum ≤ scale := by
  constructor
  · induction rs using List.reverseRecOn with
    | nil => exact fun _ => positive.le
    | append_singleton rs r ih =>
      intro near
      have before : rs.sum ≤ scale := by
        refine ih (fun r hr => small r (by simp [hr])) fun n hn => ?_
        have first := near n (by rw [List.length_append]; omega)
        rwa [List.take_append_of_le_length hn] at first
      obtain ⟨k, hk⟩ := near _ (Nat.le_refl _)
      obtain ⟨-, step⟩ := small r (by simp)
      rw [List.take_length, List.sum_append, List.sum_singleton, abs_le] at hk
      rw [List.sum_append, List.sum_singleton]
      rcases Int.lt_or_le 0 k with later | early
      · have around : turn ≤ k * turn := le_mul_of_one_le_left (by omega) later
        omega
      · have none : k * turn ≤ 0 := Int.mul_nonpos_of_nonpos_of_nonneg early (by omega)
        omega
  · intro total n _
    have upper : (rs.take n).sum ≤ rs.sum :=
      (List.take_sublist n rs).sum_le_sum fun r hr => (small r hr).1
    have lower : 0 ≤ (rs.take n).sum :=
      List.sum_nonneg fun r hr => (small r (List.mem_of_mem_take hr)).1
    refine ⟨0, ?_⟩
    rw [Int.zero_mul, Int.sub_zero, abs_of_nonneg lower]
    omega

end Remainders

section Units

/-- What 64 bits hold of a gap in billionths of a tick -/
def product (gap : Int) : Int := (gap * 1000000000).bmod (2 ^ 64)

/-- What of a gap does not get into the timestamp, where one unit is `scale` billionths of a tick:
what the product has no room for, and what its division leaves. -/
def lost (scale gap : Int) : Int := gap * 1000000000 - product gap + (product gap).tmod scale

def counted (scale : Int) (t₀ : Int64) (ts : List Int64) : Int :=
  ((gaps t₀ ts).map fun gap => (product gap).tdiv scale).sum

theorem sum_gaps (t₀ : Int64) (ts : List Int64) :
    (gaps t₀ ts).sum = (ts.getLastD t₀).toInt - t₀.toInt := by
  induction ts generalizing t₀ with
  | nil => simp [gaps]
  | cons now ts ih =>
    have rest := ih now
    rw [gaps, List.sum_cons, List.getLastD_cons]
    omega

theorem counted_add_lost (scale : Int) (gs : List Int) :
    (gs.map fun gap => (product gap).tdiv scale).sum * scale + (gs.map (lost scale)).sum =
      gs.sum * 1000000000 := by
  induction gs with
  | nil => simp
  | cons gap gs ih =>
    have first := Int.tdiv_mul_add_tmod (product gap) scale
    simp only [List.map_cons, List.sum_cons, lost]
    linarith

/-- A gap whose product fits loses the remainder of the division and nothing else. -/
theorem lost_of_fits {scale gap : Int} (later : 0 ≤ gap) (fits : gap * 1000000000 < 2 ^ 63) :
    lost scale gap = gap * 1000000000 % scale := by
  have held : product gap = gap * 1000000000 := Int.bmod_eq_of_le_mul_two (by omega) (by omega)
  rw [lost, held, Int.tmod_eq_emod_of_nonneg (by omega)]
  omega

theorem product_eq (gap : Int) : product gap = gap * 1000000000 - 2 ^ 64 * wraps gap := by
  rw [product, wraps, Int.bmod_def]
  split <;> omega

theorem lost_eq (scale gap : Int) : lost scale gap = 2 ^ 64 * wraps gap + rest scale gap := by
  rw [lost, rest, product_eq]
  ring

theorem sum_lost (scale : Int) (gs : List Int) :
    (gs.map (lost scale)).sum = 2 ^ 64 * (gs.map wraps).sum + (gs.map (rest scale)).sum := by
  induction gs with
  | nil => rfl
  | cons gap gs ih =>
    simp only [List.map_cons, List.sum_cons, ih, lost_eq]
    ring

theorem gaps_take (t₀ : Int64) (ts : List Int64) (n : Nat) :
    gaps t₀ (ts.take n) = (gaps t₀ ts).take n := by
  induction ts generalizing t₀ n with
  | nil => simp [gaps]
  | cons now ts ih =>
    cases n with
    | zero => rfl
    | succ n => simp [gaps, ih]

theorem length_gaps (t₀ : Int64) (ts : List Int64) : (gaps t₀ ts).length = ts.length := by
  induction ts generalizing t₀ with
  | nil => rfl
  | cons now ts ih => simp [gaps, ih]

theorem gaps_nonneg {t₀ : Int64} {ts : List Int64}
    (later : (t₀ :: ts).IsChain (fun a b : Int64 => a ≤ b)) : ∀ gap ∈ gaps t₀ ts, 0 ≤ gap := by
  induction ts generalizing t₀ with
  | nil => exact fun _ h => absurd h List.not_mem_nil
  | cons now ts ih =>
    obtain ⟨first, later⟩ := List.isChain_cons_cons.mp later
    have first := Int64.le_iff_toInt_le.mp first
    rw [gaps]
    exact List.forall_mem_cons.mpr ⟨by omega, ih later⟩

theorem within_unit_iff {f : Int} {u : Nat} (hf : 0 < f) (hu : 0 < u) (n e : Int) :
    |(n : ℚ) - (e : ℚ) * 10 ^ 9 / f / u| ≤ 1 ↔ |n * (f * u) - e * 1000000000| ≤ f * u := by
  have hf' : (0 : ℚ) < f := by exact_mod_cast hf
  have hu' : (0 : ℚ) < u := by exact_mod_cast hu
  have hscale : (0 : ℚ) < f * u := by positivity
  have fraction : (n : ℚ) - e * 10 ^ 9 / f / u = (n * (f * u) - e * 1000000000) / (f * u) := by
    field_simp
    norm_num
  rw [fraction, abs_div, abs_of_pos hscale, div_le_one hscale]
  exact_mod_cast Iff.rfl

/-- The time that has passed is what was counted and what was lost. -/
theorem tracks_iff {unit modulus : Nat} {f t₀ : Int64} {ts : List Int64} {timestamp : Nat}
    (hf : 0 < f.toInt) (hu : 0 < unit)
    (h : counted (f.toInt * unit) t₀ ts % modulus = timestamp) :
    TracksTime unit modulus f t₀ (ts.getLastD t₀) timestamp ↔
      NearTurns (f.toInt * unit) (modulus * (f.toInt * unit))
        ((gaps t₀ ts).map (lost (f.toInt * unit))).sum := by
  have passed := counted_add_lost (f.toInt * unit) (gaps t₀ ts)
  rw [sum_gaps] at passed
  -- turning the timestamp round `k` times more is losing `k` turns less
  have off (k : Int) : (counted (f.toInt * unit) t₀ ts + modulus * k) * (f.toInt * unit) -
      ((ts.getLastD t₀).toInt - t₀.toInt) * 1000000000 =
      -(((gaps t₀ ts).map (lost (f.toInt * unit))).sum - k * (modulus * (f.toInt * unit))) := by
    rw [← passed, counted]
    ring
  unfold TracksTime NearTurns
  constructor
  · rintro ⟨n, hn, near⟩
    have same := Int.emod_eq_emod_iff_emod_sub_eq_zero.mp (hn.trans h.symm)
    obtain ⟨k, hk⟩ := Int.dvd_of_emod_eq_zero same
    obtain rfl : n = counted (f.toInt * unit) t₀ ts + modulus * k := by omega
    rw [within_unit_iff hf hu, off, abs_neg] at near
    exact ⟨k, near⟩
  · rintro ⟨k, near⟩
    refine ⟨counted (f.toInt * unit) t₀ ts + modulus * k, ?_, ?_⟩
    · rw [Int.add_mul_emod_self_left, h]
    · rwa [within_unit_iff hf hu, off, abs_neg]

/-- What is lost stays near whole turns along a run exactly when the readings keep the time. -/
theorem forall_lost_near_iff {unit modulus : Nat} {f t₀ : Int64} {ts : List Int64}
    (hf : 0 < f.toInt) (hu : 0 < unit) (wide : 3 ≤ modulus)
    (later : (t₀ :: ts).IsChain (fun a b : Int64 => a ≤ b)) :
    (∀ n ≤ ts.length, NearTurns (f.toInt * unit) (modulus * (f.toInt * unit))
      ((gaps t₀ (ts.take n)).map (lost (f.toInt * unit))).sum) ↔
      KeepsTime unit modulus f t₀ ts := by
  have positive : 0 < f.toInt * unit := by positivity
  have turn : 3 * (f.toInt * unit) ≤ modulus * (f.toInt * unit) := by
    gcongr
    exact_mod_cast wide
  unfold KeepsTime
  generalize f.toInt * unit = scale at *
  split
  next fits =>
    have remainders : (gaps t₀ ts).map (lost scale) =
        (gaps t₀ ts).map fun gap => gap * 1000000000 % scale :=
      List.map_congr_left fun gap hg => lost_of_fits (gaps_nonneg later gap hg) (fits gap hg)
    rw [← remainders, ← forall_nearTurns_iff turn _ positive]
    · simp only [List.length_map, length_gaps, gaps_take, List.map_take]
    · rw [remainders, List.forall_mem_map]
      exact fun gap _ => ⟨Int.emod_nonneg _ positive.ne', Int.emod_lt_of_pos _ positive⟩
  next => simp only [gaps_take, sum_lost]

end Units

section Delta

theorem tdiv_tdiv (a : Int) {b : Int} (hb : 0 ≤ b) (c : Int) :
    (a.tdiv b).tdiv c = a.tdiv (b * c) := by
  have forward {a : Int} (ha : 0 ≤ a) : (a.tdiv b).tdiv c = a.tdiv (b * c) := by
    rw [Int.tdiv_eq_ediv_of_nonneg ha, Int.tdiv_eq_ediv_of_nonneg ha,
      Int.tdiv_eq_ediv_of_nonneg (Int.ediv_nonneg ha hb), Int.ediv_ediv_of_nonneg hb]
  rcases Int.le_total 0 a with ha | ha
  · exact forward ha
  · have back := forward (a := -a) (by omega)
    rw [Int.neg_tdiv, Int.neg_tdiv, Int.neg_tdiv] at back
    exact Int.neg_inj.mp back

theorem toInt_delta {f last now unit : Int64} (hf : 0 < f.toInt) (hu : 0 < unit.toInt) :
    ((now - last) * 1000000000 / f / unit).toInt =
      (product (now.toInt - last.toInt)).tdiv (f.toInt * unit.toInt) := by
  have hf' : f ≠ -1 := by
    rintro rfl
    exact absurd hf (by decide)
  have hu' : unit ≠ -1 := by
    rintro rfl
    exact absurd hu (by decide)
  have factor : (1000000000 : Int64).toInt = 1000000000 := by decide
  rw [Int64.toInt_div_of_ne_right _ _ hu', Int64.toInt_div_of_ne_right _ _ hf', Int64.toInt_mul,
    Int64.toInt_sub, factor, Int.bmod_mul_bmod, tdiv_tdiv _ hf.le, product]

/-- Converted to unsigned and cut to the width of a timestamp, a number is itself modulo the
turns. -/
theorem toUInt64_emod (x : Int64) {modulus : Nat} (h : modulus ∣ 2 ^ 64) :
    (x.toUInt64.toNat : Int) % modulus = x.toInt % modulus := by
  have signed : x.toInt = (x.toUInt64.toNat : Int).bmod (2 ^ 64) :=
    BitVec.toInt_eq_toNat_bmod x.toBitVec
  have h' : (modulus : Int) ∣ (2 ^ 64 : Nat) := by exact_mod_cast h
  rw [signed, ← Int.emod_emod_of_dvd _ h', ← Int.emod_emod_of_dvd (Int.bmod _ _) h', Int.bmod_emod]

theorem delta_turns {f last now unit : Int64} {modulus : Nat} (hf : 0 < f.toInt)
    (hu : 0 < unit.toInt) (h : modulus ∣ 2 ^ 64) (stamp : Nat) :
    (((stamp + ((now - last) * 1000000000 / f / unit).toUInt64.toNat) % modulus : Nat) : Int) =
      (stamp + (product (now.toInt - last.toInt)).tdiv (f.toInt * unit.toInt)) % modulus := by
  have turns := toUInt64_emod ((now - last) * 1000000000 / f / unit) h
  rw [toInt_delta hf hu] at turns
  rw [Int.natCast_mod, Int.natCast_add, Int.add_emod, turns, ← Int.add_emod]

end Delta

/-- A place that stamps what it prepares. -/
structure StampedPlace (unit modulus : Nat) (S : Type) extends
    HandOff.Place S Int64 GamepadReport where
  frequency : S → Int64
  lastTime : S → Int64
  stamp : S → Nat
  unit_pos : 0 < unit
  stamp_lt : ∀ g, stamp g < modulus
  load_keeps : ∀ g report, frequency (load g report) = frequency g ∧
    lastTime (load g report) = lastTime g ∧ stamp (load g report) = stamp g
  prepare_stamps : ∀ g now, 0 < (frequency g).toInt →
    frequency (prepare g now) = frequency g ∧ lastTime (prepare g now) = now ∧
      (stamp (prepare g now) : Int) =
        (stamp g + (product (now.toInt - (lastTime g).toInt)).tdiv
          ((frequency g).toInt * unit)) % modulus

namespace StampedPlace

variable {unit modulus : Nat} {S : Type} (P : StampedPlace unit modulus S)

/-- One report -/
theorem report_stamps (g : S) (hf : 0 < (P.frequency g).toInt)
    (r : Option GamepadReport × Int64) :
    P.frequency (P.prepare (r.1.elim g (P.load g)) r.2) = P.frequency g ∧
      P.lastTime (P.prepare (r.1.elim g (P.load g)) r.2) = r.2 ∧
      (P.stamp (P.prepare (r.1.elim g (P.load g)) r.2) : Int) =
        (P.stamp g + (product (r.2.toInt - (P.lastTime g).toInt)).tdiv
          ((P.frequency g).toInt * unit)) % modulus := by
  obtain ⟨_ | report, now⟩ := r
  · exact P.prepare_stamps g now hf
  · obtain ⟨same, last, stamp⟩ := P.load_keeps g report
    rw [← last, ← stamp, ← same]
    exact P.prepare_stamps (P.load g report) now (same ▸ hf)

/-- Any number of reports -/
theorem afterReports_stamps (g : S) (hf : 0 < (P.frequency g).toInt)
    (reports : List (Option GamepadReport × Int64)) :
    (P.stamp (afterReports P.toPlace g reports) : Int) % modulus =
      (P.stamp g + counted ((P.frequency g).toInt * unit) (P.lastTime g)
        (reports.map Prod.snd)) % modulus := by
  induction reports generalizing g with
  | nil => simp [afterReports, counted, gaps]
  | cons r reports ih =>
    obtain ⟨same, last, stamp⟩ := P.report_stamps g hf r
    have rest := ih _ (same ▸ hf)
    rw [same, last, stamp, Int.emod_add_emod, Int.add_assoc] at rest
    exact rest

/-- Since the gamepad was created -/
theorem afterReports_tracks_iff (g : S) (hf : 0 < (P.frequency g).toInt) (h0 : P.stamp g = 0)
    (reports : List (Option GamepadReport × Int64)) :
    TracksTime unit modulus (P.frequency g) (P.lastTime g)
        ((reports.map Prod.snd).getLastD (P.lastTime g))
        (P.stamp (afterReports P.toPlace g reports)) ↔
      NearTurns ((P.frequency g).toInt * unit) (modulus * ((P.frequency g).toInt * unit))
        ((gaps (P.lastTime g) (reports.map Prod.snd)).map
          (lost ((P.frequency g).toInt * unit))).sum := by
  have run := P.afterReports_stamps g hf reports
  have reduced : (P.stamp (afterReports P.toPlace g reports) : Int) % modulus =
      P.stamp (afterReports P.toPlace g reports) := by
    exact_mod_cast Nat.mod_eq_of_lt (P.stamp_lt _)
  rw [h0, Int.natCast_zero, Int.zero_add, reduced] at run
  exact tracks_iff hf P.unit_pos run.symm

/-- At every report since the gamepad was created -/
theorem forall_tracks_iff (g : S) (hf : 0 < (P.frequency g).toInt) (h0 : P.stamp g = 0)
    (wide : 3 ≤ modulus) {reports : List (Option GamepadReport × Int64)}
    (later : (P.lastTime g :: reports.map Prod.snd).IsChain (fun a b : Int64 => a ≤ b)) :
    (∀ n ≤ reports.length, TracksTime unit modulus (P.frequency g) (P.lastTime g)
        (((reports.take n).map Prod.snd).getLastD (P.lastTime g))
        (P.stamp (afterReports P.toPlace g (reports.take n)))) ↔
      KeepsTime unit modulus (P.frequency g) (P.lastTime g) (reports.map Prod.snd) := by
  rw [← forall_lost_near_iff hf P.unit_pos wide later, List.length_map]
  refine forall₂_congr fun n _ => ?_
  rw [P.afterReports_tracks_iff g hf h0, List.map_take]

end StampedPlace

def ps4StampedPlace : StampedPlace 5333 (2 ^ 16) Ps4Input where
  toPlace := ps4InputPlace
  frequency := Ps4Input.qpcFrequency
  lastTime := Ps4Input.lastInputReportTime
  stamp := fun g => g.timestamp.toNat
  unit_pos := by decide
  stamp_lt := fun g => g.timestamp.toNat_lt
  load_keeps := fun _ _ => ⟨rfl, rfl, rfl⟩
  prepare_stamps := fun g now hf => by
    refine ⟨rfl, rfl, ?_⟩
    have delta : (5333 : Int64).toInt = 5333 := by decide
    rw [Nat.cast_ofNat, ← delta, ← delta_turns hf (by decide) (by decide)]
    simp [ps4InputPlace, Ps4Input.prepareInputReportForSubmission, UInt16.toNat_add]

def ps5StampedPlace : StampedPlace 333 (2 ^ 32) Ps5Input where
  toPlace := ps5InputPlace
  frequency := Ps5Input.qpcFrequency
  lastTime := Ps5Input.lastInputReportTime
  stamp := fun g => g.timestamp.toNat
  unit_pos := by decide
  stamp_lt := fun g => g.timestamp.toNat_lt
  load_keeps := fun _ _ => ⟨rfl, rfl, rfl⟩
  prepare_stamps := fun g now hf => by
    refine ⟨rfl, rfl, ?_⟩
    have delta : (333 : Int64).toInt = 333 := by decide
    rw [Nat.cast_ofNat, ← delta, ← delta_turns hf (by decide) (by decide)]
    simp [ps5InputPlace, Ps5Input.prepareInputReportForSubmission, UInt32.toNat_add]

/-- At every report since a gamepad was created at `t₀`, for any frequency and any readings that
do not decrease. -/
theorem sensorTimestamps_track_iff (f t₀ : Int64) (hf : 0 < f) (report : GamepadReport)
    (sequenceNumber : UInt8) (reports : List (Option GamepadReport × Int64))
    (later : (t₀ :: reports.map Prod.snd).IsChain (fun a b : Int64 => a ≤ b)) :
    ((∀ n ≤ reports.length,
        TracksTime 5333 (2 ^ 16) f t₀ (((reports.take n).map Prod.snd).getLastD t₀)
          (afterReports ps4InputPlace ⟨f, t₀, report, 0⟩ (reports.take n)).timestamp.toNat) ↔
      KeepsTime 5333 (2 ^ 16) f t₀ (reports.map Prod.snd)) ∧
    ((∀ n ≤ reports.length,
        TracksTime 333 (2 ^ 32) f t₀ (((reports.take n).map Prod.snd).getLastD t₀)
          (afterReports ps5InputPlace ⟨f, t₀, report, 0, sequenceNumber⟩
            (reports.take n)).timestamp.toNat) ↔
      KeepsTime 333 (2 ^ 32) f t₀ (reports.map Prod.snd)) := by
  have hf' : 0 < f.toInt := Int64.lt_iff_toInt_lt.mp hf
  exact ⟨ps4StampedPlace.forall_tracks_iff ⟨f, t₀, report, 0⟩ hf' rfl (by decide) later,
    ps5StampedPlace.forall_tracks_iff ⟨f, t₀, report, 0, sequenceNumber⟩ hf' rfl (by decide) later⟩

/-- A report every 4 ms, at 10 MHz -/
def every4Ms (n : Nat) : List (Option GamepadReport × Int64) :=
  (List.range' 40000 n 40000).map fun t => (none, Int64.ofNat t)

/-- Each of them drops 250 ns, and 21 still keep within 5333 ns. -/
theorem sensorTimestamps_track_every4Ms :
    (afterReports ps4InputPlace ⟨10000000, 0, 0, 0⟩ (every4Ms 21)).timestamp = 21 * 750 ∧
    ∀ n ≤ 21, TracksTime 5333 (2 ^ 16) 10000000 0
      ((((every4Ms 21).take n).map Prod.snd).getLastD 0)
      (afterReports ps4InputPlace ⟨10000000, 0, 0, 0⟩ ((every4Ms 21).take n)).timestamp.toNat := by
  have keeps : KeepsTime 5333 (2 ^ 16) 10000000 0 ((every4Ms 21).map Prod.snd) := by
    rw [KeepsTime, if_pos (by decide +kernel)]
    decide +kernel
  exact ⟨by decide +kernel, (sensorTimestamps_track_iff 10000000 0 (by decide) 0 0 (every4Ms 21)
    (by decide +kernel)).1.mpr keeps⟩

/-- With 22 of them more than a unit is dropped, and at 10 MHz the product of 1000 s has no room in
64 bits. -/
theorem sensorTimestamps_drift :
    ((0 :: (every4Ms 22).map Prod.snd).IsChain (fun a b : Int64 => a ≤ b) ∧
       ¬ TracksTime 5333 (2 ^ 16) 10000000 0 880000
         (afterReports ps4InputPlace ⟨10000000, 0, 0, 0⟩ (every4Ms 22)).timestamp.toNat) ∧
    ¬ TracksTime 333 (2 ^ 32) 10000000 0 10000000000
      (afterReports ps5InputPlace ⟨10000000, 0, 0, 0, 0⟩
        [(none, 10000000000)]).timestamp.toNat := by
  have last : ((every4Ms 22).map Prod.snd).getLastD 0 = 880000 := by decide +kernel
  refine ⟨⟨by decide +kernel, fun tracks => ?_⟩, fun tracks => ?_⟩
  · rw [← last] at tracks
    have near := (ps4StampedPlace.afterReports_tracks_iff ⟨10000000, 0, 0, 0⟩ (by decide) rfl
      (every4Ms 22)).mp tracks
    exact not_nearTurns rfl (by decide +kernel) (by decide +kernel) near
  · have near := (ps5StampedPlace.afterReports_tracks_iff ⟨10000000, 0, 0, 0, 0⟩ (by decide) rfl
      [(none, 10000000000)]).mp tracks
    exact not_nearTurns rfl (by decide +kernel) (by decide +kernel) near

end WinUHid
