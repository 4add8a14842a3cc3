import Bystander.CommandLine.Program
import Bystander.Proofs.Bookkeeping
import Bystander.Proofs.FaultIsolation
import Bystander.Proofs.Lifecycle
import Bystander.Proofs.WrittenBack
/-! # Options in place of the configuration

A configuration is only accepted if its rate and its duration keep within limits.  Options that stand in for them are
not checked: a run takes any two numbers, and goes one of three ways (`Stage.Runs`).  It cannot tell how long a frame
takes, or how many frames there are, or it makes as many steps as its count says.  A count below zero makes none, and is
answered and written down as it is.
-/
namespace Bystander

open Act (Obeys run_bind run_get_bind run_orElse)

/-! ## Rates and durations within limits -/

namespace Double

open Float.Model.UnpackedFloat

theorem isFinite_of_rate {x : Float} (hlow : 0.0 < x) (hhigh : x ≤ 1000.0) : Scalar.isFinite x = true := by
  obtain ⟨-, hnumber, hpositive⟩ := (lt_iff _ _).1 hlow
  obtain ⟨-, -, hmost⟩ := (le_iff _ _).1 hhigh
  change (reading x).isFinite = true
  cases hx : reading x with
  | notANumber => exact absurd hx hnumber
  | infinity s =>
    rw [hx] at hpositive hmost
    cases s with
    | negative => exact absurd hpositive (by decide)
    | positive => exact absurd hmost (by decide)
  | _ => rfl

/-- **Within the limits no count of frames is below zero**, be the product of time and rate finite or not. -/
theorem nearest_nonneg_of_limits {seconds fps : Float} (hlow : 0.0 < fps) (hhigh : fps ≤ 1000.0)
    (hseconds : 0.0 ≤ seconds) : 0 ≤ Scalar.nearest (seconds * fps) := by
  have hdefined : Scalar.Defined seconds := Strict.defined_of_le hseconds
  have hstarted : ¬ seconds < 0.0 := fun hbelow =>
    Timekeeping.not_le_of_lt hdefined Timekeeping.defined_zero hbelow hseconds
  have hample := (ample_iff seconds).1 ⟨hdefined, hstarted⟩
  exact Scalar.nearest_nonneg
    (floor_nonneg (ample_mul_positive hample (reading_positive (isFinite_of_rate hlow hhigh) hlow)))

end Double

/-- The limits of an accepted simulation. -/
structure SimulationConfig.Limited (c : SimulationConfig Float) : Prop where
  rate : 0.0 < c.fps ∧ c.fps ≤ 1000.0
  duration : 0.0 ≤ c.duration

theorem Data.limits_of_toRate {high x : Float} {d : Data} (h : d.toRate high = .accepted x) : 0.0 < x ∧ x ≤ high := by
  obtain ⟨y, hy, hx⟩ := (Checked.andThen_eq_accepted_iff _ _ _).1 h
  obtain ⟨z, -, hz⟩ := (Checked.andThen_eq_accepted_iff _ _ _).1 hy
  split at hx
  · next hlow =>
    split at hz
    · next hhigh =>
      cases hx
      cases hz
      exact ⟨hlow, hhigh⟩
    · cases hz
  · cases hx

theorem Data.limit_of_toFloatFrom {low x : Float} {d : Data} (h : d.toFloatFrom low = .accepted x) : low ≤ x := by
  obtain ⟨y, -, hx⟩ := (Checked.andThen_eq_accepted_iff _ _ _).1 h
  split at hx
  · next hlow =>
    cases hx
    exact hlow
  · cases hx

theorem BotConfig.limited_of_ofData {d : Data} {config : BotConfig Float} (h : BotConfig.ofData d = .accepted config) :
    config.simulation.Limited := by
  cases d with
  | map e =>
    obtain ⟨-, -, -, hsimulation, -⟩ := (BotConfig.ofEntries_eq_accepted_iff e config).1 h
    refine Data.of_fieldOr hsimulation ?_ fun d c hc => ?_
    · constructor <;> decide
    · cases d with
      | map e =>
        obtain ⟨hfps, hduration, -⟩ := (SimulationConfig.ofEntries_eq_accepted_iff e c).1 hc
        constructor
        · exact Data.of_fieldOr (P := fun x => 0.0 < x ∧ x ≤ 1000.0) hfps (by decide) fun _ _ => Data.limits_of_toRate
        · exact Data.of_fieldOr (P := fun x => 0.0 ≤ x) hduration (by decide) fun _ _ => Data.limit_of_toFloatFrom
      | _ => cases hc
  | _ => cases h

/-! ## The ways of a run -/

namespace Stage

variable {α κ τ ρ : Type} [Scalar α]

/-- **Steps one after the other**, with the fault of each that failed, which is written down before the next one. -/
inductive Steps (h : Handlers α κ τ ρ) (spare : Nat) (delta : α) :
    Stage α κ τ ρ → List (Option (Fault α)) → Stage α κ τ ρ → Prop
  | nil (s : Stage α κ τ ρ) : Steps h spare delta s [] s
  | cons {s t u : Stage α κ τ ρ} {fault : Option (Fault α)} {faults : List (Option (Fault α))}
    (hstep : (step h spare delta).run s = (answer fault, t))
    (hrest : Steps h spare delta (t.reported fault) faults u) : Steps h spare delta s (fault :: faults) u

/-- **The ways of a run**, with the faults of its steps, its answer and the stage that it leaves. -/
inductive Runs (h : Handlers α κ τ ρ) (spare : Nat) (seconds fps : α) (realtime : Bool) (s : Stage α κ τ ρ) :
    List (Option (Fault α)) → Except (Fault α) Int → Stage α κ τ ρ → Prop
  | timeless (hfps : (fps == 0.0) = true) : Runs h spare seconds fps realtime s [] (.error .divisionByZero) s
  | countless (hfps : (fps == 0.0) = false) (hproduct : Scalar.isFinite (seconds * fps) = false) :
    Runs h spare seconds fps realtime s []
      (.error (if Scalar.isUndefined (seconds * fps) then .integerOfUndefined else .integerOfInfinity)) s
  | counted (hfps : (fps == 0.0) = false) (hproduct : Scalar.isFinite (seconds * fps) = true)
    {faults : List (Option (Fault α))} {t : Stage α κ τ ρ}
    (hsteps : Steps h spare (1.0 / fps)
      (s.noted (.loopStarted fps (Scalar.nearest (seconds * fps)) realtime)) faults t)
    (hlength : faults.length = (Scalar.nearest (seconds * fps)).toNat) :
    Runs h spare seconds fps realtime s faults (.ok (Scalar.nearest (seconds * fps)))
      (t.noted (.loopFinished (Scalar.nearest (seconds * fps)) t.scheduler.now))

variable {h : Handlers α κ τ ρ} {spare : Nat} {delta seconds fps : α} {realtime : Bool} {s t : Stage α κ τ ρ}
  {faults : List (Option (Fault α))} {result : Except (Fault α) Int}

theorem exists_steps (h : Handlers α κ τ ρ) (spare : Nat) (delta : α) : ∀ (n : Nat) (s : Stage α κ τ ρ),
    ∃ faults t, Steps h spare delta s faults t ∧ faults.length = n ∧ (frames h spare delta n).run s = (.ok (), t)
  | 0, s => ⟨[], s, .nil s, rfl, rfl⟩
  | n + 1, s => by
    obtain ⟨fault, t, hstep⟩ : ∃ fault t, (step h spare delta).run s = (answer fault, t) := by
      rcases (step h spare delta).run s with ⟨fault | u, t⟩
      · exact ⟨some fault, t, rfl⟩
      · exact ⟨none, t, rfl⟩
    have hframe : ((step h spare delta).orElse fun fault => note (.frameFailed fault)).run s =
        (.ok (), t.reported fault) := by
      rw [run_orElse, hstep]
      cases fault <;> rfl
    obtain ⟨faults, u, hsteps, hlength, hrun⟩ := exists_steps h spare delta n (t.reported fault)
    refine ⟨fault :: faults, u, .cons hstep hsteps, congrArg Nat.succ hlength, ?_⟩
    rw [frames, Act.repeated_succ, run_bind, hframe]
    exact hrun

/-- **A run goes one of the three ways**, whatever its rate and its time. -/
theorem exists_runs (h : Handlers α κ τ ρ) (spare : Nat) (seconds fps : α) (realtime : Bool) (s : Stage α κ τ ρ) :
    ∃ faults, Runs h spare seconds fps realtime s faults ((run h spare seconds fps realtime).run s).1
      ((run h spare seconds fps realtime).run s).2 := by
  cases hfps : (fps == 0.0) with
  | true =>
    have hinterval : Scalar.divide 1.0 fps = .error .divisionByZero := if_pos hfps
    rw [run_of_divide hinterval]
    exact ⟨[], .timeless hfps⟩
  | false =>
    have hinterval : Scalar.divide 1.0 fps = .ok (1.0 / fps) := if_neg (by rw [hfps]; exact Bool.false_ne_true)
    cases hproduct : Scalar.isFinite (seconds * fps) with
    | true =>
      obtain ⟨faults, t, hsteps, hlength, hrun⟩ := exists_steps h spare (1.0 / fps)
        (Scalar.nearest (seconds * fps)).toNat (s.noted (.loopStarted fps (Scalar.nearest (seconds * fps)) realtime))
      rw [run_of_interval hinterval hproduct hrun]
      exact ⟨faults, .counted hfps hproduct hsteps hlength⟩
    | false =>
      have hcount : Scalar.integral (seconds * fps) Scalar.nearest =
          .error (if Scalar.isUndefined (seconds * fps) then .integerOfUndefined else .integerOfInfinity) := by
        rw [Scalar.integral, hproduct, if_neg Bool.false_ne_true]
        split <;> rfl
      rw [run_of_integral hinterval hcount]
      exact ⟨[], .countless hfps hproduct⟩

/-! ## What steps do -/

/-- **Steps obey what each step obeys**, and writing a line. -/
theorem Steps.obeys {R : Stage α κ τ ρ → Stage α κ τ ρ → Prop} [Steady R] (hsteps : Steps h spare delta s faults t)
    (hstep : Obeys R (step h spare delta)) (hnoted : ∀ event s, R s (s.noted event)) : R s t := by
  have hreported : ∀ fault s, R s (s.reported fault) := by
    intro fault s
    cases fault with
    | none => exact Steady.refl s
    | some fault => exact hnoted _ s
  induction hsteps with
  | nil s => exact Steady.refl s
  | cons hrun _ ih => exact Steady.trans (hstep.of_run hrun) (Steady.trans (hreported _ _) ih)

/-- **Steps back in time are all refused**, and not counted. -/
theorem Steps.refused (hsteps : Steps h spare delta s faults t) (hdelta : delta < 0.0) :
    t.scheduler = s.scheduler ∧ ∀ fault ∈ faults, fault = some (.frameDelta delta) := by
  induction hsteps with
  | nil s => exact ⟨rfl, List.forall_mem_nil _⟩
  | @cons s t u fault faults hstep _ ih =>
    rw [run_step_refused h spare hdelta] at hstep
    have hfault : fault = some (.frameDelta delta) := by
      cases fault with
      | none => cases (Prod.mk.inj hstep).1
      | some fault => exact congrArg some (Except.error.inj (Prod.mk.inj hstep).1).symm
    obtain ⟨hscheduler, hrest⟩ := ih
    rw [scheduler_reported, ← (Prod.mk.inj hstep).2] at hscheduler
    exact ⟨hscheduler, List.forall_mem_cons.2 ⟨hfault, hrest⟩⟩

/-- **A step counts one frame**, if what timers and callbacks do leaves the count alone. -/
theorem frameCount_step (htimer : ∀ purpose, Obeys (leaving fun s => s.scheduler.frameCount) (h.onTimer purpose))
    (hframe : ∀ k, Obeys (leaving fun s => s.scheduler.frameCount) (h.onFrame k delta)) (hdelta : ¬ delta < 0.0)
    (s : Stage α κ τ ρ) :
    ((step h spare delta).run s).2.scheduler.frameCount = s.scheduler.frameCount + 1 := by
  have hfire : ∀ limit, Obeys (leaving fun s : Stage α κ τ ρ => s.scheduler.frameCount) (fireDue h limit) := by
    refine obeys_fireDue fun s t scheduler hdue => ?_
    obtain ⟨rest, -, -, rfl⟩ := Scheduler.takeDue_eq_some hdue
    exact htimer t.purpose _
  have hadvance : s.scheduler.advance delta =
      .ok { s.scheduler with now := s.scheduler.now + delta, frameCount := s.scheduler.frameCount + 1 } :=
    if_neg hdelta
  rw [step, run_bind, run_scheduling, hadvance]
  exact (Act.obeys_get.bind fun s => (hfire _).bind fun _ => Act.obeys_get.bind fun s => obeys_callAll hframe _) _

theorem Steps.frameCount (hsteps : Steps h spare delta s faults t)
    (hstep : ∀ s, ((step h spare delta).run s).2.scheduler.frameCount = s.scheduler.frameCount + 1) :
    t.scheduler.frameCount = s.scheduler.frameCount + faults.length := by
  induction hsteps with
  | nil s => rfl
  | @cons s t u fault faults hrun _ ih =>
    have hcount := hstep s
    rw [hrun] at hcount
    rw [ih, scheduler_reported, hcount, List.length_cons]
    omega

/-- **A run that fails has done nothing**, and its fault is one of arithmetic. -/
theorem Runs.of_error {fault : Fault α} (hruns : Runs h spare seconds fps realtime s faults (.error fault) t) :
    faults = [] ∧ t = s ∧ (fault = .divisionByZero ∨ fault = .integerOfUndefined ∨ fault = .integerOfInfinity) := by
  cases hruns with
  | timeless => exact ⟨rfl, rfl, .inl rfl⟩
  | countless =>
    refine ⟨rfl, rfl, .inr ?_⟩
    split
    · exact .inl rfl
    · exact .inr rfl

/-- **What a run answers**, and how many steps it made. -/
theorem Runs.of_ok {n : Int} (hruns : Runs h spare seconds fps realtime s faults (.ok n) t) :
    n = Scalar.nearest (seconds * fps) ∧ faults.length = n.toNat := by
  cases hruns with
  | counted _ _ _ hlength => exact ⟨rfl, hlength⟩

theorem Runs.obeys {R : Stage α κ τ ρ → Stage α κ τ ρ → Prop} [Steady R]
    (hruns : Runs h spare seconds fps realtime s faults result t) (hstep : Obeys R (step h spare (1.0 / fps)))
    (hnoted : ∀ event s, R s (s.noted event)) : R s t := by
  cases hruns with
  | timeless => exact Steady.refl s
  | countless => exact Steady.refl s
  | counted _ _ hsteps _ =>
    exact Steady.trans (hnoted _ s) (Steady.trans (hsteps.obeys hstep hnoted) (hnoted _ _))

/-- **The frames that a host counts** in a run: all its steps, or none if time went back. -/
theorem Runs.counts (hruns : Runs h spare seconds fps realtime s faults result t)
    (hstep : ¬ 1.0 / fps < 0.0 →
      ∀ s, ((step h spare (1.0 / fps)).run s).2.scheduler.frameCount = s.scheduler.frameCount + 1) :
    t.scheduler.frameCount = s.scheduler.frameCount + (if 1.0 / fps < 0.0 then 0 else faults.length) ∧
      (1.0 / fps < 0.0 → ∀ fault ∈ faults, fault = some (.frameDelta (1.0 / fps))) := by
  cases hruns with
  | timeless => exact ⟨by split <;> rfl, fun _ => List.forall_mem_nil _⟩
  | countless => exact ⟨by split <;> rfl, fun _ => List.forall_mem_nil _⟩
  | @counted _ _ faults t hsteps _ =>
    by_cases hdelta : 1.0 / fps < 0.0
    · obtain ⟨hscheduler, hrefused⟩ := hsteps.refused hdelta
      rw [if_pos hdelta]
      exact ⟨congrArg Scheduler.frameCount hscheduler, fun _ => hrefused⟩
    · rw [if_neg hdelta]
      exact ⟨hsteps.frameCount (hstep hdelta), fun h => absurd h hdelta⟩

end Stage

/-! ## Frames that a bot has been through -/

theorem Brain.frameCount_frame {α κ τ : Type} [Scalar α] (ending : Nat → τ) (delta : α) :
    Obeys (leaving fun c : Scene α κ τ => c.scheduler.frameCount) (frame ending delta) := by
  intro c
  cases hclosed : c.brain.closed with
  | true =>
    rw [run_frame_closed ending delta hclosed]
    rfl
  | false =>
    rw [run_frame_open ending delta hclosed]
    exact (records_outcomes.behave ending (begin delta c)).frameCount

namespace Bot

variable {α : Type} [Scalar α]

theorem frameCount_step {delta : α} (hdelta : ¬ delta < 0.0) (s : BotStage α Empty) :
    ((step .absent delta).run s).2.scheduler.frameCount = s.scheduler.frameCount + 1 := by
  refine Stage.frameCount_step (fun purpose => ?_) (fun k => ?_) hdelta s
  · exact (leaves_onTimer purpose).imp fun s t h => congrArg Scheduler.frameCount h
  · cases k with
    | brain serial => exact obeys_onBrain fun s brain _ => Brain.frameCount_frame _ delta (scene s brain)
    | guest g => exact g.elim

omit [Scalar α] in
theorem frameCount_stop : Obeys (leaving fun s => s.scheduler.frameCount)
    (stop : Act (Fault α) (BotStage α Empty) Unit) := by
  have hclose : Obeys (leaving fun c : Scene α (Callback Empty) (Alarm Empty) => c.scheduler.frameCount) Brain.close :=
    Brain.obeys_close fun _ _ _ => rfl
  exact obeys_stop (fun _ _ => rfl) (fun _ => obeys_onBrain fun s brain _ => hclose (scene s brain)) fun _ _ => rfl

theorem frameCount_start (config : BotConfig α) : Obeys (leaving fun s => s.scheduler.frameCount)
    (start config : Act (Fault α) (BotStage α Empty) Bool) := by
  refine obeys_start (fun _ _ => rfl) (fun _ _ _ => rfl) fun s _ _ => ?_
  change (s.scheduler.connect _).frameCount = s.scheduler.frameCount
  unfold Scheduler.connect
  split <;> rfl

/-- **A session** of a bot that starts ends as what is done in it, if a stop answers then. -/
theorem run_session {β : Type} {config : BotConfig α} {body : Act (Fault α) (BotStage α Empty) β} {answer : Bool}
    {s first after last : BotStage α Empty} {result : Except (Fault α) β}
    (hstart : (start config).run s = (.ok answer, first)) (hbody : body.run first = (result, after))
    (hstop : stop.run after = (.ok (), last)) : (session config body).run s = (result, last) := by
  have hact : (do discard (start config); body : Act (Fault α) (BotStage α Empty) β).run s = (result, after) := by
    rw [run_bind, Act.run_discard, hstart]
    exact hbody
  rw [session, Act.andFinally, Act.run_ofFun, hact]
  dsimp only
  rw [hstop]

/-- **A performance** of a bot that starts ends as its run does. -/
theorem run_performance {config : BotConfig α} (pace : Pace α) {answer : Bool} {s first after : BotStage α Empty}
    {result : Except (Fault α) Int} (hstart : (start config).run s = (.ok answer, first))
    (hrun : (run .absent (pace.duration.getD config.simulation.duration) (pace.fps.getD config.simulation.fps)
      (pace.realtime.getD config.simulation.realtime)).run first = (result, after))
    (hbrains : after.cast.brains ≠ []) :
    ∃ seen last, (performance config pace).run s = (result.map fun _ => seen, last) ∧
      last.scheduler.frameCount = after.scheduler.frameCount := by
  obtain ⟨last, hstop, -⟩ := stop_answers after
  have hbrain : brain? after = some (after.cast.brains.getLast hbrains) := List.getLast?_eq_some_getLast hbrains
  refine ⟨(after.cast.brains.getLast hbrains, after.avatar.headPitch), last, ?_, frameCount_stop.of_run hstop⟩
  refine run_session hstart ?_ hstop
  rw [run_bind, Act.run_discard, hrun]
  cases result with
  | error fault => rfl
  | ok n =>
    dsimp only [Except.map]
    rw [run_get_bind, hbrain]
    rfl

theorem simulate_of_performance {config : BotConfig α} {pace : Pace α} {source : Source α} {journal : Journal α}
    {result : Except (Fault α) (Brain α × α)} {last : BotStage α Empty}
    (hperformed : (performance config pace).run { (waiting source : BotStage α Empty) with journal } = (result, last)) :
    (simulate config pace source journal).1 =
      result.map fun seen => ⟨last.cast.appearance.map (·.number), seen.1, seen.2, last⟩ := by
  unfold simulate
  dsimp only
  rw [hperformed]

end Bot

namespace CommandLine

/-! ## Numbers that the command line reads -/

theorem lists_of_botNumber? {s : String} {n : Int} (h : botNumber? s = some n) : Catalog.Lists n := by
  obtain ⟨-, hn⟩ := Option.filter_eq_some_iff.1 h
  simpa [Catalog.Lists, Catalog.firstNumber, Catalog.lastNumber] using hn

theorem exists_of_optional? {β : Type} {read : String → Option β} {value : Option String} {b : β}
    (h : optional? read value = some (some b)) : ∃ s, value = some s ∧ read s = some b := by
  cases value with
  | none => cases h
  | some s =>
    obtain ⟨c, hc, hb⟩ := Option.map_eq_some_iff.1 h
    cases hb
    exact ⟨s, rfl, hc⟩

/-- **A number for the looks is checked where it is read**, unlike a rate or a duration. -/
theorem lists_of_run? {arguments : List String} {o : RunOptions} (h : run? arguments = some (.run o)) :
    ∀ n, o.number = some n → Catalog.Lists n := by
  intro n hn
  obtain ⟨a, -, h⟩ := Option.bind_eq_some_iff.1 h
  split at h
  · cases h
  · obtain ⟨seconds, -, h⟩ := Option.bind_eq_some_iff.1 h
    obtain ⟨fps, -, h⟩ := Option.bind_eq_some_iff.1 h
    obtain ⟨seed, -, h⟩ := Option.bind_eq_some_iff.1 h
    obtain ⟨number, hnumber, h⟩ := Option.bind_eq_some_iff.1 h
    cases h
    cases hn
    obtain ⟨s, -, hs⟩ := exists_of_optional? hnumber
    exact lists_of_botNumber? hs

/-! ## A launch -/

/-- The host on which a bot is launched; its first line tells how. -/
def RunOptions.stage (o : RunOptions) (config : BotConfig Float) (chance : Int) : BotStage Float Empty :=
  let c := o.override config
  { (Bot.waiting (.seeded (c.simulation.seed.getD chance)) : BotStage Float Empty) with
    journal := Journal.empty.note (.launching (o.seconds.getD c.simulation.duration) (o.fps.getD c.simulation.fps)
      c.simulation.seed) }

/-- **A launch** of a bot that starts ends as its run does. -/
theorem launch_of_run {o : RunOptions} {config : BotConfig Float} {chance : Int} {first after : BotStage Float Empty}
    {faults : List (Option (Fault Float))} {result : Except (Fault Float) Int} {seconds fps : Float} {realtime : Bool}
    (hstart : (Bot.start (o.override config)).run (o.stage config chance) = (.ok false, first))
    (hrun : (Bot.run .absent (o.seconds.getD config.simulation.duration) (o.fps.getD config.simulation.fps)
      (o.pace.realtime.getD config.simulation.realtime)).run first = (result, after))
    (hruns : Stage.Runs (Bot.handlers .absent) 0 seconds fps realtime first faults result after) :
    ∃ summary, (launch o config chance).1 = result.map (fun _ => summary) ∧
      summary.stage.scheduler.frameCount = after.scheduler.frameCount := by
  have hgrown : Bot.Grows first after := hruns.obeys (Bot.grows_step nofun nofun) fun _ _ => .of_eq rfl
  have hbrains : after.cast.brains ≠ [] := by
    have hfirst := List.length_pos_of_ne_nil (Bot.brains_of_start hstart)
    exact List.ne_nil_of_length_pos (Nat.lt_of_lt_of_le hfirst hgrown)
  obtain ⟨⟨brain, headPitch⟩, last, hperformed, hcount⟩ := Bot.run_performance o.pace hstart hrun hbrains
  refine ⟨⟨last.cast.appearance.map (·.number), brain, headPitch, last⟩, ?_, hcount⟩
  refine Eq.trans (Bot.simulate_of_performance hperformed) ?_
  cases result <;> rfl

/-- **No pace is refused.**  Where an option is absent, the limits of the configuration hold.  Where it is given, any
number is taken: the bot starts, and its run goes its way.  If that fails, it is by a fault of arithmetic, which is no
error of the bot's own, before any step.  If it answers with a count, it has made as many steps if and only if the count
is not below zero, as it is within the limits; below zero it has made none.  At a rate below zero each step is refused,
and the host counts no frame.  The number for the looks is one of the catalog's, as the command line sees to
(`lists_of_run?`). -/
theorem launch_takes_any_pace {d : Data} {config : BotConfig Float} (haccepted : BotConfig.ofData d = .accepted config)
    (o : RunOptions) (hnumber : ∀ n, o.number = some n → Catalog.Lists n) (chance : Int) :
    let fps := o.fps.getD config.simulation.fps
    let seconds := o.seconds.getD config.simulation.duration
    let realtime := o.pace.realtime.getD config.simulation.realtime
    (o.fps = none → 0.0 < fps ∧ fps ≤ 1000.0) ∧ (o.seconds = none → 0.0 ≤ seconds) ∧
    (∀ fault, (launch o config chance).1 = .error fault → fault.report.isOwn = false) ∧
    ∃ first faults result after summary,
      (Bot.start (o.override config)).run (o.stage config chance) = (.ok false, first) ∧
      (Bot.run .absent seconds fps realtime).run first = (result, after) ∧
      Stage.Runs (Bot.handlers .absent) 0 seconds fps realtime first faults result after ∧
      (launch o config chance).1 = result.map (fun _ => summary) ∧
      summary.stage.scheduler.frameCount = (if 1.0 / fps < 0.0 then 0 else faults.length) ∧
      (1.0 / fps < 0.0 → ∀ fault ∈ faults, fault = some (.frameDelta (1.0 / fps))) ∧
      (∀ fault, result = .error fault → faults = [] ∧ after = first) ∧
      ∀ n, result = .ok n → ((faults.length : Int) = n ↔ 0 ≤ n) ∧ (n < 0 → faults = []) ∧
        (0.0 < fps → fps ≤ 1000.0 → 0.0 ≤ seconds → 0 ≤ n) := by
  intro fps seconds realtime
  have hlimited := BotConfig.limited_of_ofData haccepted
  have hlists : ∀ n, (o.override config).assets.number = some n → Catalog.Lists n := by
    intro n hn
    rcases Option.or_eq_some_iff.1 hn with hgiven | ⟨-, hconfigured⟩
    · exact hnumber n hgiven
    · exact BotConfig.lists_of_ofData haccepted n hconfigured
  obtain ⟨first, hstart⟩ := Bot.start_answers (s := o.stage config chance) rfl hlists fun _ => ⟨_, rfl⟩
  obtain ⟨faults, hruns⟩ := Stage.exists_runs (Bot.handlers .absent) 0 seconds fps realtime first
  generalize hrun : (Stage.run (Bot.handlers .absent) 0 seconds fps realtime).run first = ended at hruns
  obtain ⟨result, after⟩ := ended
  dsimp only at hruns
  obtain ⟨summary, hlaunch, hcount⟩ := launch_of_run hstart hrun hruns
  obtain ⟨hcounted, hrefused⟩ := hruns.counts Bot.frameCount_step
  have hfresh : first.scheduler.frameCount = 0 := (Bot.frameCount_start _).of_run hstart
  refine ⟨?_, ?_, ?_, first, faults, result, after, summary, hstart, hrun, hruns, hlaunch, ?_, hrefused, ?_, ?_⟩
  · intro hnone
    have hconfigured : fps = config.simulation.fps := congrArg (Option.getD · config.simulation.fps) hnone
    rw [hconfigured]
    exact hlimited.rate
  · intro hnone
    have hconfigured : seconds = config.simulation.duration := congrArg (Option.getD · config.simulation.duration) hnone
    rw [hconfigured]
    exact hlimited.duration
  · intro fault hfault
    rw [hlaunch] at hfault
    cases result with
    | ok n => cases hfault
    | error fault' =>
      cases hfault
      obtain ⟨-, -, rfl | rfl | rfl⟩ := hruns.of_error <;> rfl
  · rw [hcount, hcounted, hfresh, Nat.zero_add]
  · rintro fault rfl
    obtain ⟨hnone, hsame, -⟩ := hruns.of_error
    exact ⟨hnone, hsame⟩
  · rintro n rfl
    obtain ⟨hn, hlength⟩ := hruns.of_ok
    refine ⟨by omega, fun hbelow => List.eq_nil_of_length_eq_zero (by omega), fun hlow hhigh hstarted => ?_⟩
    rw [hn]
    exact Double.nearest_nonneg_of_limits hlow hhigh hstarted

/-- Ten seconds at a rate of minus sixty: six hundred frames below none, which is the answer of a run without a step. -/
theorem launch_takes_any_pace_backward :
    let o : RunOptions := ⟨none, none, some (-60.0), none, some 7, false, false, none⟩
    ∃ config first after summary, BotConfig.ofData (.map []) = .accepted config ∧
      Stage.Runs (Bot.handlers .absent) 0 10.0 (-60.0) false first [] (.ok (-600)) after ∧
      (launch o config 1).1 = .ok summary ∧ summary.stage.scheduler.frameCount = 0 := by
  intro o
  have haccepted : BotConfig.ofData (.map []) = .accepted .standard := rfl
  have hnumber : ∀ n, o.number = some n → Catalog.Lists n := by
    rintro n ⟨⟩
    exact ⟨by decide, by decide⟩
  obtain ⟨-, -, -, first, faults, result, after, summary, -, -, hruns, hlaunch, hcount, -, -, hcounted⟩ :=
    launch_takes_any_pace haccepted o hnumber 1
  have hproduct : Scalar.nearest ((10.0 : Float) * (-60.0)) = -600 := by decide +kernel
  have hresult : result = .ok (-600) := by
    cases hruns with
    | timeless hfps => exact absurd hfps (by decide +kernel)
    | countless _ hinfinite => exact absurd hinfinite (by decide +kernel)
    | counted => exact congrArg Except.ok hproduct
  subst hresult
  obtain ⟨-, hnone, -⟩ := hcounted (-600) rfl
  obtain rfl := hnone (by decide)
  exact ⟨.standard, first, after, summary, haccepted, hruns, hlaunch, by rw [hcount]; split <;> rfl⟩

end CommandLine
end Bystander
