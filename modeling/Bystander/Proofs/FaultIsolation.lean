import Mathlib
import Bystander.Proofs.Transcript
/-! # Faults stay in their frames

A run makes all its frames, no matter which of them fail (`run_isolates_faults`).  A fault is written down once, and the
timers that were due and did not fire because of it fire before anything else does.
-/
namespace Bystander.Stage

open Act (run_bind run_get_bind run_orElse)
open Scalar (Defined Elapses)

variable {α κ τ ρ : Type} [Scalar α]

/-- **What is left over comes first.**  The timers that are due in a frame and do not fire stay in front of the queue,
and no later frame calls a callback before all of them have fired, in the order in which they fall due. -/
def Drains (rs : List (FrameRecord α κ τ)) : Prop :=
  ∀ before r after, rs = before ++ r :: after → r.due.Pairwise Timer.Before ∧
    ∃ left, r.due = r.fired ++ left ∧ left <+: r.pending ∧ ∀ between r' rest, after = between ++ r' :: rest →
      left <+: (between ++ [r']).flatMap FrameRecord.fired ++ r'.pending ∧
        (r'.called ≠ [] → left <+: (between ++ [r']).flatMap FrameRecord.fired)

/-- A stage for so many frames: its scheduler was started, and at the clocks of the frames callbacks only arrange
things. -/
structure Prepared [BEq κ] (h : Handlers α κ τ ρ) (delta : α) (n : Nat) (s : Stage α κ τ ρ) : Prop where
  sound : s.scheduler.Sound
  arranges : ∀ i < n, h.Arranges (clockAfter delta (i + 1) s.scheduler.now) delta

omit [Scalar α] in
theorem run_note (event : Event α) (s : Stage α κ τ ρ) : (note event).run s = (.ok (), s.noted event) := rfl

omit [Scalar α] in
theorem failures_noted (event : Event α) (h : ∀ fault, event ≠ .frameFailed fault) (s : Stage α κ τ ρ) :
    (s.noted event).journal.failures = s.journal.failures := Journal.failures_note_other h s.journal

theorem Prepared.noted [BEq κ] {h : Handlers α κ τ ρ} {delta : α} {n : Nat} {s : Stage α κ τ ρ}
    (hs : Prepared h delta n s) (event : Event α) : Prepared h delta n (s.noted event) := ⟨hs.sound, hs.arranges⟩

section Frames

variable [Ticking α] [BEq κ] {h : Handlers α κ τ ρ} {delta : α}

omit [Ticking α] in
theorem Prepared.first {n : Nat} {s : Stage α κ τ ρ} (hs : Prepared h delta (n + 1) s) :
    h.Arranges (s.scheduler.now + delta) delta := hs.arranges 0 n.succ_pos

theorem Prepared.next {n : Nat} {s t : Stage α κ τ ρ} {r : FrameRecord α κ τ} (hs : Prepared h delta (n + 1) s)
    (hframe : Frame h delta s r t) : Prepared h delta n (t.reported r.fault) := by
  obtain ⟨hclock, -, -, ht⟩ := hframe.advances hs.first hs.sound
  rw [← scheduler_reported r.fault] at hclock ht
  refine ⟨ht, fun i hi => ?_⟩
  rw [hclock]
  exact hs.arranges (i + 1) (Nat.succ_lt_succ hi)

theorem exists_frames (hdelta : ¬ delta < 0.0) : ∀ (n : Nat) {s : Stage α κ τ ρ}, Prepared h delta n s →
    ∃ rs t, Frames h delta s rs t ∧ rs.length = n
  | 0, s, _ => ⟨[], s, .nil s, rfl⟩
  | n + 1, s, hs => by
    obtain ⟨r, t, hframe⟩ := exists_frame hs.first hs.sound hdelta
    obtain ⟨rs, u, hframes, hlength⟩ := exists_frames hdelta n (hs.next hframe)
    exact ⟨r :: rs, u, .cons hframe (hframe.run_step hs.first hs.sound) hframes, congrArg Nat.succ hlength⟩

omit [Ticking α] [BEq κ] in
theorem Frames.run_frames {s t : Stage α κ τ ρ} {rs : List (FrameRecord α κ τ)} (hframes : Frames h delta s rs t)
    (spare : Nat) : (frames h spare delta rs.length).run s = (.ok (), t) := by
  induction hframes with
  | nil => rfl
  | @cons s t u r rs _ hstep _ ih =>
    have hframe : ((step h spare delta).orElse fun fault => note (.frameFailed fault)).run s =
        (.ok (), t.reported r.fault) := by
      rw [run_orElse, hstep spare]
      cases r.fault <;> rfl
    rw [frames, List.length_cons, Act.repeated_succ, run_bind, hframe]
    exact ih

/-- **What a loop of frames counts**: every frame moves the clock on, and every fault is written down once. -/
theorem Frames.counts {s t : Stage α κ τ ρ} {rs : List (FrameRecord α κ τ)} (hframes : Frames h delta s rs t)
    (hs : Prepared h delta rs.length s) :
    t.scheduler.now = clockAfter delta rs.length s.scheduler.now ∧
      t.scheduler.frameCount = s.scheduler.frameCount + rs.length ∧
      t.journal.failures = s.journal.failures ++ rs.filterMap FrameRecord.fault := by
  induction hframes with
  | nil => exact ⟨rfl, rfl, (List.append_nil _).symm⟩
  | @cons s t u r rs hframe _ _ ih =>
    obtain ⟨hclock, hcount, hfailures, -⟩ := hframe.advances hs.first hs.sound
    obtain ⟨hclock', hcount', hfailures'⟩ := ih (hs.next hframe)
    rw [scheduler_reported] at hclock' hcount'
    rw [failures_reported, hfailures] at hfailures'
    refine ⟨?_, ?_, ?_⟩
    · rw [hclock', hclock]
      rfl
    · rw [hcount', hcount, List.length_cons]
      omega
    · rw [hfailures', List.append_assoc]
      cases hfault : r.fault <;> simp [hfault]

variable (hdefined : Defined delta) (hdelta : ¬ delta < 0.0)

include hdefined hdelta

/-- **What is due when frames start fires first in them**: it is in front of what fires and is left, and where callbacks
are called all of it has fired. -/
theorem Frames.prefix_fired {s t : Stage α κ τ ρ} {rs : List (FrameRecord α κ τ)} (hframes : Frames h delta s rs t) :
    ∀ {due later : List (Timer α τ)}, Prepared h delta rs.length s → s.scheduler.Splits due later →
      ∀ before r after, rs = before ++ r :: after →
        due <+: (before ++ [r]).flatMap FrameRecord.fired ++ r.pending ∧
          (r.called ≠ [] → due <+: (before ++ [r]).flatMap FrameRecord.fired) := by
  induction hframes with
  | nil => exact fun _ _ before r after hrs => absurd hrs (by simp)
  | @cons s t u r rs hframe _ _ ih =>
    intro due later hs hsplits before r' after hrs
    obtain ⟨left, later', hdue, ht, hleft⟩ := hframe.splits hs.first hs.sound
    -- What was due is first among what is due now: it fires first, and what is left of it stays in front.
    have hfront : due <+: r.fired ++ left := hdue ▸ hframe.prefix_due hs.sound hdefined hdelta hsplits
    cases before with
    | nil =>
      cases hrs
      rw [List.nil_append, List.flatMap_singleton, hframe.pending_eq, ht.timers]
      refine ⟨hfront.trans ?_, fun hcalled => ?_⟩
      · rw [← List.append_assoc]
        exact List.prefix_append _ _
      · rwa [hleft hcalled, List.append_nil] at hfront
    | cons first before =>
      cases hrs
      have hsplits' : (t.reported r.fault).scheduler.Splits left later' := by
        rwa [scheduler_reported]
      obtain ⟨hpending, hcalled⟩ := ih (hs.next hframe) hsplits' before r' after rfl
      rw [List.cons_append, List.flatMap_cons, List.append_assoc]
      exact ⟨hfront.trans ((List.prefix_append_right_inj _).2 hpending),
        fun h => hfront.trans ((List.prefix_append_right_inj _).2 (hcalled h))⟩

theorem Frames.drains {s t : Stage α κ τ ρ} {rs : List (FrameRecord α κ τ)} (hframes : Frames h delta s rs t) :
    Prepared h delta rs.length s → Drains rs := by
  induction hframes with
  | nil => exact fun _ before r after hrs => absurd hrs (by simp)
  | @cons s t u r rs hframe _ hrest ih =>
    intro hs before r' after hrs
    cases before with
    | cons first before =>
      cases hrs
      exact ih (hs.next hframe) before r' after rfl
    | nil =>
      cases hrs
      obtain ⟨left, later, hdue, ht, -⟩ := hframe.splits hs.first hs.sound
      have hsplits : (t.reported r.fault).scheduler.Splits left later := by
        rwa [scheduler_reported]
      refine ⟨hframe.ordered hs.sound, left, hdue, ?_, ?_⟩
      · rw [hframe.pending_eq, ht.timers]
        exact List.prefix_append left later
      · exact hrest.prefix_fired hdefined hdelta (hs.next hframe) hsplits

end Frames

/-! ## Clocks over the reals -/

theorem clockAfter_real (delta : ℝ) : ∀ (n : ℕ) (now : ℝ), clockAfter delta n now = now + n * delta
  | 0, now => by simp [clockAfter]
  | n + 1, now => by
    rw [clockAfter, clockAfter_real delta n]
    push_cast
    ring

/-- **The clock of a loop of frames over the reals** is off by at most half a frame. -/
theorem clockAfter_nearest {seconds fps : ℝ} (hseconds : 0 ≤ seconds) (hfps : 0 < fps) (now : ℝ) :
    clockAfter (1.0 / fps) (Scalar.nearest (seconds * fps)).toNat now = now + Scalar.nearest (seconds * fps) / fps ∧
      |Scalar.nearest (seconds * fps) / fps - seconds| ≤ 1 / (2 * fps) := by
  have hnonneg : 0 ≤ Scalar.nearest (seconds * fps) :=
    Scalar.nearest_nonneg (Int.floor_nonneg.2 (mul_nonneg hseconds hfps.le))
  have hcast : (((Scalar.nearest (seconds * fps)).toNat : ℕ) : ℝ) = Scalar.nearest (seconds * fps) := by
    exact_mod_cast congrArg (Int.cast : ℤ → ℝ) (Int.toNat_of_nonneg hnonneg)
  refine ⟨?_, ?_⟩
  · rw [clockAfter_real, hcast]
    norm_num
    ring
  · have hnear := (Scalar.nearest_real (seconds * fps)).1
    have hsplit : Scalar.nearest (seconds * fps) / fps - seconds =
        -(seconds * fps - Scalar.nearest (seconds * fps)) / fps := by
      field_simp
      ring
    rw [hsplit, abs_div, abs_neg, abs_of_pos hfps]
    calc |seconds * fps - Scalar.nearest (seconds * fps)| / fps
      _ ≤ 1 / 2 / fps := div_le_div_of_nonneg_right hnear hfps.le
      _ = 1 / (2 * fps) := by ring

theorem not_due_at_once_real (now delay : ℝ) : ¬ now + delay / 1000.0 ≤ now ↔ 0 < delay := by
  norm_num

/-! ## A run -/

theorem run_of_divide {h : Handlers α κ τ ρ} {spare : Nat} {seconds fps : α} {realtime : Bool} {fault : Fault α}
    (hinterval : Scalar.divide 1.0 fps = .error fault) (s : Stage α κ τ ρ) :
    (run h spare seconds fps realtime).run s = (.error fault, s) := by
  rw [run, hinterval, run_bind, Act.run_ofExcept]

section Interval

variable {h : Handlers α κ τ ρ} {spare : Nat} {seconds fps interval : α} {realtime : Bool}
  (hinterval : Scalar.divide 1.0 fps = .ok interval)

include hinterval

theorem run_of_integral {fault : Fault α} (hcount : Scalar.integral (seconds * fps) Scalar.nearest = .error fault)
    (s : Stage α κ τ ρ) : (run h spare seconds fps realtime).run s = (.error fault, s) := by
  rw [run, hinterval, run_bind, Act.run_ofExcept]
  dsimp only
  rw [hcount, run_bind, Act.run_ofExcept]

theorem run_of_interval (hproduct : Scalar.isFinite (seconds * fps) = true) {s t : Stage α κ τ ρ}
    (hframes : (frames h spare interval (Scalar.nearest (seconds * fps)).toNat).run
      (s.noted (.loopStarted fps (Scalar.nearest (seconds * fps)) realtime)) = (.ok (), t)) :
    (run h spare seconds fps realtime).run s =
      (.ok (Scalar.nearest (seconds * fps)),
        t.noted (.loopFinished (Scalar.nearest (seconds * fps)) t.scheduler.now)) := by
  rw [run, hinterval, run_bind, Act.run_ofExcept]
  dsimp only
  rw [Scalar.integral, if_pos hproduct, run_bind, Act.run_ofExcept]
  dsimp only
  rw [run_bind, run_note]
  dsimp only
  rw [run_bind, hframes]
  dsimp only
  rw [run_get_bind, run_bind, run_note]
  rfl

end Interval

section Run

variable [Ticking α] {h : Handlers α κ τ ρ} {seconds fps : α} {realtime : Bool}
  (hfps : Scalar.isFinite fps = true) (hpositive : 0.0 < fps)

include hfps hpositive

theorem run_of_infinite (hproduct : Scalar.isFinite (seconds * fps) = false) (spare : Nat) (s : Stage α κ τ ρ) :
    ∃ fault, (run h spare seconds fps realtime).run s = (.error fault, s) := by
  have hcount : ∃ fault, Scalar.integral (seconds * fps) Scalar.nearest = .error fault := by
    unfold Scalar.integral
    rw [hproduct, if_neg Bool.false_ne_true]
    split <;> exact ⟨_, rfl⟩
  obtain ⟨fault, hfault⟩ := hcount
  exact ⟨fault, run_of_integral (Ticking.interval hfps hpositive).1 hfault s⟩

theorem run_of_frames (hproduct : Scalar.isFinite (seconds * fps) = true) {spare : Nat} {s t : Stage α κ τ ρ}
    (hframes : (frames h spare (1.0 / fps) (Scalar.nearest (seconds * fps)).toNat).run
      (s.noted (.loopStarted fps (Scalar.nearest (seconds * fps)) realtime)) = (.ok (), t)) :
    (run h spare seconds fps realtime).run s =
      (.ok (Scalar.nearest (seconds * fps)),
        t.noted (.loopFinished (Scalar.nearest (seconds * fps)) t.scheduler.now)) :=
  run_of_interval (Ticking.interval hfps hpositive).1 hproduct hframes

end Run

/-- **A run isolates the faults of its frames.**  It answers with the number of frames, which is the nearest to seconds
times rate, and makes exactly so many, each of the same length, whichever of them fail and however few timers a frame
may fire beside those that are pending.  Every fault is written down once, in the order of the frames, as an error with
the response to it.  A run whose number of frames overflows fails before it does anything.  Over the reals the clock ends
within half a frame of the time that was asked for, and the timers that are due at once are those without a delay. -/
theorem run_isolates_faults [Ticking α] [BEq κ] (h : Handlers α κ τ ρ) (spare : Nat) (seconds fps : α) (realtime : Bool)
    {s : Stage α κ τ ρ} (hseconds : Elapses seconds) (hfps : Scalar.isFinite fps = true) (hpositive : 0.0 < fps)
    (hs : Prepared h (1.0 / fps) (Scalar.nearest (seconds * fps)).toNat s) :
    (Scalar.isFinite (seconds * fps) = true → ∃ rs t,
      Frames h (1.0 / fps) (s.noted (.loopStarted fps (Scalar.nearest (seconds * fps)) realtime)) rs t ∧
      (rs.length : Int) = Scalar.nearest (seconds * fps) ∧
      (run h spare seconds fps realtime).run s = (.ok (Scalar.nearest (seconds * fps)),
        t.noted (.loopFinished (Scalar.nearest (seconds * fps)) t.scheduler.now)) ∧
      t.scheduler.frameCount = s.scheduler.frameCount + rs.length ∧
      t.scheduler.now = clockAfter (1.0 / fps) rs.length s.scheduler.now ∧
      (t.noted (.loopFinished (Scalar.nearest (seconds * fps)) t.scheduler.now)).journal.failures =
        s.journal.failures ++ rs.filterMap FrameRecord.fault ∧
      Drains rs) ∧
    (Scalar.isFinite (seconds * fps) = false →
      ∃ fault, (run h spare seconds fps realtime).run s = (.error fault, s)) ∧
    (∀ fault : Fault Float, (Event.frameFailed fault).level = .error ∧
      (Event.frameFailed fault).fields = [("error", fault.report.response.toData)]) ∧
    (∀ seconds fps now : ℝ, 0 ≤ seconds → 0 < fps →
      clockAfter (1.0 / fps) (Scalar.nearest (seconds * fps)).toNat now = now + Scalar.nearest (seconds * fps) / fps ∧
      |Scalar.nearest (seconds * fps) / fps - seconds| ≤ 1 / (2 * fps)) ∧
    ∀ now delay : ℝ, ¬ now + delay / 1000.0 ≤ now ↔ 0 < delay := by
  obtain ⟨-, hdefined, hdelta⟩ := Ticking.interval hfps hpositive
  refine ⟨fun hproduct => ?_, fun hproduct => run_of_infinite hfps hpositive hproduct spare s, fun _ => ⟨rfl, rfl⟩,
    fun _ _ now hseconds hfps => clockAfter_nearest hseconds hfps now, not_due_at_once_real⟩
  have hstarted := hs.noted (.loopStarted fps (Scalar.nearest (seconds * fps)) realtime)
  obtain ⟨rs, t, hframes, hlength⟩ := exists_frames hdelta _ hstarted
  rw [← hlength] at hstarted
  obtain ⟨hclock, hcount, hfailures⟩ := hframes.counts hstarted
  refine ⟨rs, t, hframes, ?_, ?_, hcount, hclock, ?_, hframes.drains hdefined hdelta hstarted⟩
  · rw [hlength]
    exact Int.toNat_of_nonneg (Ticking.count hseconds hfps hpositive hproduct)
  · have hrun := hframes.run_frames spare
    rw [hlength] at hrun
    exact run_of_frames hfps hpositive hproduct hrun
  · rw [failures_noted (.loopFinished _ _) nofun t, hfailures, failures_noted (.loopStarted _ _ _) nofun s]

/-- Timers that fail or register one that will fail in half a second; the callback does nothing. -/
def flaky : Handlers Float Unit Bool Unit where
  onTimer fails := if fails then throw .notStarted else scheduling (Scheduler.setTimeout true 500.0)
  onFrame _ _ := pure ()

/-- A stage with two timers that fall due together, of which the first will fail. -/
def overdue : Stage Float Unit Bool Unit :=
  { (Host.fresh : Host Float Unit Bool) with
    scheduler := ⟨0.0, 0, [()], [⟨0.5, 0, true⟩, ⟨0.5, 1, false⟩], 2⟩
    cast := () }

theorem sound_overdue : overdue.scheduler.Sound := by
  let opening : Errand Float Unit Bool Unit :=
    .connect () <| .book true 500.0 fun _ => .book false 500.0 fun _ => .done
  have hopening : (opening.act.run { (Host.fresh : Host Float Unit Bool) with cast := () }).2 = overdue := rfl
  exact hopening ▸ opening.sound_act rfl

/-- Half a second can be waited for, if the clock is not too late to notice. -/
theorem arranges_flaky {clock : Float} (hlater : ¬ clock + 500.0 / 1000.0 ≤ clock) (delta : Float) :
    flaky.Arranges clock delta where
  onTimer fails s hclock := by
    cases fails with
    | true => exact ⟨.refl, rfl⟩
    | false =>
      have hregister : s.scheduler.setTimeout true 500.0 = .ok _ := if_pos (by decide)
      change Stage.Arranges s ((scheduling (Scheduler.setTimeout true 500.0)).run s).2
      rw [run_scheduling, hregister]
      exact ⟨.register .refl hregister (by rwa [hclock]), rfl⟩
  onFrame _ _ _ := ⟨.refl, rfl⟩

/-- In two frames of a second each the first fails, and what it leaves due is caught up on in the second. -/
theorem run_isolates_faults_flaky :
    Prepared flaky (1.0 / 1.0) 2 overdue ∧ ∃ (rs : List (FrameRecord Float Unit Bool)) (t : Stage Float Unit Bool Unit),
      Frames flaky (1.0 / 1.0) (overdue.noted (.loopStarted 1.0 2 false)) rs t ∧ rs.length = 2 ∧
      (run flaky 0 2.0 1.0 false).run overdue = (.ok 2, t.noted (.loopFinished 2 t.scheduler.now)) ∧
      t.scheduler.frameCount = 2 ∧ t.scheduler.now = 2.0 ∧ Drains rs := by
  have hprepared : Prepared flaky (1.0 / 1.0) 2 overdue := by
    refine ⟨sound_overdue, fun i hi => ?_⟩
    rcases Nat.le_one_iff_eq_zero_or_eq_one.1 (Nat.le_of_lt_succ hi) with rfl | rfl
    · exact arranges_flaky (by decide) _
    · exact arranges_flaky (by decide) _
  obtain ⟨rs, t, hframes, hlength, hrun, hcount, hclock, -, hdrains⟩ :=
    (run_isolates_faults flaky 0 2.0 1.0 false ⟨rfl, by decide⟩ rfl (by decide) hprepared).1 rfl
  have htwo : rs.length = 2 := Int.ofNat.inj hlength
  rw [htwo] at hcount hclock
  exact ⟨hprepared, rs, t, hframes, htwo, hrun, hcount, hclock, hdrains⟩

end Bystander.Stage
