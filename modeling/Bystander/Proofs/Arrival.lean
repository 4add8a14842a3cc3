import Mathlib
import Bystander.Proofs.Answers
import Bystander.Proofs.Chances
import Bystander.Proofs.Gait
import Bystander.Proofs.Rotations
/-! # Every walk arrives

With exact numbers a step leaves a fixed fraction of the way, so after `k` steps the rest of the way is the `k`-th power
of that fraction of the whole.  It falls below any tolerance, and the walk ends with the first step after which it has.
From then on the bot stays where it is until it sets out again.
-/
namespace Bystander

open Act (Fails Obeys run_bind run_bind_eq_ok)

variable {κ τ : Type}

/-! ## The way -/

theorem Scalar.beq_zero_of_ne {x : ℝ} (h : x ≠ 0) : (x == 0.0) = false := by
  rw [zero_literal]
  exact decide_eq_false h

namespace Gait

/-- The fraction of the way that a step leaves. -/
noncomputable def rest (g : Gait ℝ) : ℝ := 1 - g.settings.walk.moveRate

/-- **Where the bot is after some steps**, on the line from where it was to the target. -/
noncomputable def point (g : Gait ℝ) (k : ℕ) : Vec3 ℝ := g.target + (g.place - g.target) * g.rest ^ k

noncomputable def along (g : Gait ℝ) (k : ℕ) : Gait ℝ := { g with place := g.point k }

/-- After these many steps the rest of the way is within the tolerance. -/
def Near (g : Gait ℝ) (k : ℕ) : Prop := g.rest ^ k * (g.place - g.target).length < g.settings.walk.stopTolerance

/-- A walk under way that has some way behind it with each step. -/
structure Proper (g : Gait ℝ) : Prop where
  opened : g.closed = false
  chance : g.settings.walk.chance ≠ 0
  rate : 0 < g.settings.walk.moveRate ∧ g.settings.walk.moveRate ≤ 1
  tolerance : 0 < g.settings.walk.stopTolerance
  walking : g.phase = .walking

variable {g : Gait ℝ}

theorem Proper.chance_beq (h : g.Proper) : (g.settings.walk.chance == 0.0) = false :=
  Scalar.beq_zero_of_ne h.chance

theorem along_zero (g : Gait ℝ) : g.along 0 = g := by
  have hpoint : g.point 0 = g.place := by
    ext <;> simp [point, Vec3.add_def, Vec3.sub_def, Vec3.scale_def]
  rw [along, hpoint]

/-- **A step goes from one point of the line to the next.** -/
theorem next_along (g : Gait ℝ) (k : ℕ) : (g.along k).next = g.point (k + 1) := by
  ext <;> simp only [next, along, point, rest, Vec3.add_def, Vec3.sub_def, Vec3.scale_def] <;> ring

theorem length_point (h : g.Proper) (k : ℕ) :
    (g.point k - g.target).length = g.rest ^ k * (g.place - g.target).length := by
  have hrest : 0 ≤ g.rest ^ k := pow_nonneg (sub_nonneg.2 h.rate.2) k
  have hdifference : g.point k - g.target = (g.place - g.target) * g.rest ^ k := by
    ext <;> simp [point, Vec3.add_def, Vec3.sub_def, Vec3.scale_def]
  rw [hdifference, Vec3.length_scale _ hrest]

theorem strode_along_near (h : g.Proper) {k : ℕ} (hnear : g.Near (k + 1)) :
    (g.along k).strode = { g.along (k + 1) with phase := .idle } := by
  rw [strode_of_near, next_along]
  · rfl
  · rw [next_along]
    change (g.point (k + 1) - g.target).length < _
    rw [length_point h]
    exact hnear

theorem strode_along_far (h : g.Proper) {k : ℕ} (hfar : ¬ g.Near (k + 1)) : (g.along k).strode = g.along (k + 1) := by
  rw [strode_of_far, next_along]
  · rw [along, ← h.walking]
    rfl
  · rw [next_along]
    change ¬ (g.point (k + 1) - g.target).length < _
    rw [length_point h]
    exact hfar

/-- **The rest of the way falls below the tolerance.** -/
theorem exists_isLeast_near (h : g.Proper) : ∃ K, IsLeast {k | 1 ≤ k ∧ g.Near k} K :=
  Scalar.exists_isLeast_within ⟨sub_nonneg.2 h.rate.2, sub_lt_self 1 h.rate.1⟩ (Vec3.length_nonneg _) h.tolerance

end Gait

/-! ## Frames that fail -/

/-- The fault of a wave whose end would lie before its start. -/
def Fault.Backward (fault : Fault ℝ) : Prop := ∃ d, d < 0 ∧ fault = .timerDelay d

theorem View.answers_real {s : Scene ℝ κ τ} (h : ¬ s.brain.settings.view.Stuck) :
    ∃ b, (View.frame.run s).1 = .ok b := by
  rw [View.run_frame]
  split
  · next henabled =>
    have hrate : (s.brain.settings.view.rate == 0.0) ≠ true := fun hzero => h ⟨henabled, hzero⟩
    rw [interval, Scalar.divide, if_neg hrate]
    dsimp only
    split <;> exact ⟨_, rfl⟩
  · exact ⟨false, rfl⟩

theorem Wave.fails_frame_real (ending : Nat → τ) :
    Fails (fun _ => True) Fault.Backward (Wave.frame ending : Play ℝ κ τ Unit) := by
  refine fun s _ => ⟨trivial, fun fault hfault => ?_⟩
  rw [Wave.run_frame] at hfault
  split at hfault
  · split at hfault
    · rw [Act.run_discard, run_start] at hfault
      split at hfault
      · cases hfault
      · next refused hset =>
        cases hfault
        unfold Scheduler.setTimeout at hset
        split at hset
        · cases hset
        · next hrefused =>
          cases hset
          rw [Scheduler.acceptsDelay_iff, Scalar.elapses_real, not_le] at hrefused
          exact ⟨_, hrefused, rfl⟩
    · cases hfault
  · cases hfault
  · -- a sine of a real number is never refused
    rw [run_roll] at hfault
    cases hfault

theorem Chatter.fails_frame_real {F : Fault ℝ → Prop} :
    Fails (fun _ => True) F (Chatter.frame : Play ℝ κ τ (Option Nat)) := by
  refine fun s _ => ⟨trivial, fun fault hfault => ?_⟩
  rw [Chatter.run_frame] at hfault
  split at hfault
  · rw [run_play] at hfault
    split at hfault
    · cases hfault
    · obtain ⟨index, hindex⟩ : ∃ index, (place s.drawn.source.draw.1 s.drawn.brain.clips.length :
          Except (Fault ℝ) Nat) = .ok index := ⟨_, rfl⟩
      rw [hindex] at hfault
      dsimp only at hfault
      split at hfault <;> cases hfault
  · cases hfault

theorem Head.fails_frame_real {F : Fault ℝ → Prop} : Fails (fun _ => True) F (Head.frame : Play ℝ κ τ Unit) := by
  refine fun s _ => ⟨trivial, fun fault hfault => ?_⟩
  rw [Head.run_frame] at hfault
  split at hfault
  · cases hfault
  · split at hfault <;> cases hfault

theorem WalkSettings.ordinary_real (w : WalkSettings ℝ) (source : Source ℝ) (t : ℝ) : w.Ordinary source t where
  legs := rfl
  turn _ _ := rfl
  arc _ := ⟨rfl, rfl, rfl⟩

/-- A walk never fails: no angle is infinite. -/
theorem Walk.answers_frame_real (s : Scene ℝ κ τ) : (Walk.frame.run s).1 = .ok () := by
  have hordinary := WalkSettings.ordinary_real s.brain.settings.walk s.source 0
  rw [Walk.run_frame]
  cases s.brain.state.walk with
  | walking =>
    obtain ⟨orientation, hmix⟩ :=
      Quat.mix_of_ordinary hordinary s.brain.state.orientation s.brain.state.targetOrientation
    dsimp only
    rw [Walk.run_stride, Quat.sine_real, hmix]
    dsimp only
    split <;> rfl
  | idle =>
    have hyaw : Scalar.isInfinite (Quat.halfAngle (nextYaw s.drawn)) = false := rfl
    obtain ⟨turn, hturn⟩ := Quat.angleAxis_of_ordinary hyaw .up
    dsimp only
    split
    · rw [Walk.run_pickTarget, hturn]
    · rfl

namespace Brain

/-- **Before the walk a frame fails only where a wave would end before it starts**, if the view can be queried. -/
theorem backward_of_prelude {ending : Nat → τ} {s t : Scene ℝ κ τ} {fault : Fault ℝ}
    (hview : ¬ s.brain.settings.view.Stuck) (h : (prelude ending).run s = (.error fault, t)) : fault.Backward := by
  have hlater : Fails (fun _ => True) Fault.Backward (do
      Wave.frame ending
      discard Chatter.frame
      Head.frame : Play ℝ κ τ Unit) :=
    (Wave.fails_frame_real ending).bind fun _ => (Chatter.fails_frame_real.map _).bind fun _ => Head.fails_frame_real
  obtain ⟨b, hb⟩ := View.answers_real hview
  have hlook : (discard View.frame : Play ℝ κ τ Unit).run s = (.ok (), (View.frame.run s).2) := by
    rw [Act.run_discard, hb]
    rfl
  rw [prelude, run_bind, hlook] at h
  exact (hlater (View.frame.run s).2 trivial).2 fault (congrArg Prod.fst h)

theorem draws_overture {α : Type} [Scalar α] (ending : Nat → τ) :
    Obeys Scene.Draws (overture ending : Play α κ τ Unit) := by
  apply obeys_overture
  · rintro s t ⟨_, _, _, -, rfl⟩
    exact .refl s.source
  · rintro s t ⟨_, _, _, _, _, _, _, h, rfl⟩
    exact h
  · rintro s t ⟨_, _, _, _, h, rfl⟩
    exact h

theorem draws_prelude {α : Type} [Scalar α] (ending : Nat → τ) :
    Obeys Scene.Draws (prelude ending : Play α κ τ Unit) := by
  rw [prelude_eq]
  refine (draws_overture ending).bind fun _ => Head.obeys_frame.imp ?_
  rintro s t ⟨_, _, _, _, _, h, rfl⟩
  exact h

/-- **So it is for the whole frame**: a walk never fails. -/
theorem backward_of_frame {ending : Nat → τ} {delta : ℝ} {s t : Scene ℝ κ τ} {fault : Fault ℝ}
    (hopen : s.brain.closed = false) (hchance : (s.brain.settings.walk.chance == 0.0) = false)
    (hview : ¬ s.brain.settings.view.Stuck) (h : (frame ending delta).run s = (.error fault, t)) : fault.Backward := by
  obtain ⟨answer, u, hprelude, -, -, ⟨other, rfl, hr⟩ | ⟨-, hr⟩⟩ := frame_cases ending delta hopen hchance
  · obtain rfl : other = fault := Except.error.inj (congrArg Prod.fst (hr.symm.trans h))
    exact backward_of_prelude (s := begin delta s) hview hprelude
  · have hwalk := Walk.answers_frame_real u
    rw [← hr, h] at hwalk
    cases hwalk

end Brain

/-! ## Walks -/

namespace Walk

/-- **What a bot lives through on its way**, with the number of frames that have answered: frames that answer, frames
that fail, and whatever leaves its gait alone. -/
inductive Paces (ending : Nat → τ) : ℕ → Scene ℝ κ τ → Scene ℝ κ τ → Prop
  | refl (s : Scene ℝ κ τ) : Paces ending 0 s s
  | aside {n : ℕ} {s t u : Scene ℝ κ τ} : Paces ending n s t → u.gait = t.gait → Paces ending n s u
  | failed {n : ℕ} {s t u : Scene ℝ κ τ} {delta : ℝ} {fault : Fault ℝ} :
    Paces ending n s t → (Brain.frame ending delta).run t = (.error fault, u) → Paces ending n s u
  | answered {n : ℕ} {s t u : Scene ℝ κ τ} {delta : ℝ} :
    Paces ending n s t → (Brain.frame ending delta).run t = (.ok (), u) → Paces ending (n + 1) s u

/-- **Where a walk has got to** after some frames, if it takes `K` steps: it is under way, it is over and the bot stays
where it is, or the bot has set out again. -/
inductive Progress (g : Gait ℝ) (K : ℕ) : ℕ → Gait ℝ → Prop
  | underWay {n : ℕ} : n < K → Progress g K n (g.along n)
  | finished {n : ℕ} : K ≤ n → Progress g K n { g.along K with phase := .idle }
  | again {n : ℕ} {h : Gait ℝ} : K ≤ n → h.closed = false → h.settings = g.settings → g.walks < h.walks →
    Progress g K n h

variable {g : Gait ℝ} {K n : ℕ} {ending : Nat → τ} {delta : ℝ} {s t : Scene ℝ κ τ}

/-- A scene with this gait, wherever it has got to, can go on. -/
theorem ready_of_gait {place : Vec3 ℝ} {phase : WalkPhase} (hg : g.Proper) (hs : s.gait = { g with place, phase }) :
    s.brain.closed = false ∧ s.brain.settings = g.settings ∧ (s.brain.settings.walk.chance == 0.0) = false ∧
      s.brain.state.walk = phase := by
  have hsettings : s.brain.settings = g.settings := congrArg Gait.settings hs
  exact ⟨(congrArg Gait.closed hs).trans hg.opened, hsettings, hsettings ▸ hg.chance_beq, congrArg Gait.phase hs⟩

/-- **One frame of a walk**: a frame that fails does not get on, and one that answers does. -/
theorem Progress.frame (hg : g.Proper) (hK : IsLeast {k | 1 ≤ k ∧ g.Near k} K) (h : Progress g K n s.gait)
    {answer : Except (Fault ℝ) Unit} (hr : (Brain.frame ending delta).run s = (answer, t)) :
    (∀ fault, answer = .error fault → Progress g K n t.gait) ∧ (answer = .ok () → Progress g K (n + 1) t.gait) := by
  generalize hs : s.gait = f at h
  cases h with
  | underWay hn =>
    obtain ⟨hopen, -, hchance, hwalk⟩ := ready_of_gait hg hs
    obtain ⟨-, hstep⟩ := Brain.gait_frame_walking ending delta hopen hchance (hwalk.trans hg.walking)
    rw [hr, hs] at hstep
    obtain ⟨fault, hfault, hgait⟩ | ⟨hok, hgait, -⟩ := hstep
    · cases hfault
      exact ⟨fun _ _ => hgait ▸ .underWay hn, nofun⟩
    · cases hok
      refine ⟨nofun, fun _ => ?_⟩
      by_cases hlast : n + 1 = K
      · subst hlast
        rw [hgait, Gait.strode_along_near hg hK.1.2]
        exact .finished le_rfl
      · have hlt : n + 1 < K := by omega
        have hfar : ¬ g.Near (n + 1) := fun hnear => absurd (hK.2 ⟨by omega, hnear⟩) (by omega)
        rw [hgait, Gait.strode_along_far hg hfar]
        exact .underWay hlt
  | finished hn =>
    obtain ⟨hopen, -, hchance, hidle⟩ := ready_of_gait hg hs
    have hstep := Brain.gait_frame_idle ending delta hopen hchance hidle
    rw [hr, hs] at hstep
    obtain hgait | ⟨-, target, heading, hgait⟩ := hstep
    · rw [hgait]
      exact ⟨fun _ _ => .finished hn, fun _ => .finished (by omega)⟩
    · rw [hgait]
      exact ⟨fun _ _ => .again hn hg.opened rfl (Nat.lt_succ_self _),
        fun _ => .again (by omega) hg.opened rfl (Nat.lt_succ_self _)⟩
  | again hn hopen hsettings hwalks =>
    subst hs
    have hsame : s.brain.settings = g.settings := hsettings
    have hafter := Brain.gait_frame ending delta hopen (hsame ▸ hg.chance_beq)
    rw [hr] at hafter
    have hmore : g.walks < t.gait.walks := lt_of_lt_of_le hwalks hafter.2.2
    exact ⟨fun _ _ => .again hn hafter.1 (hafter.2.1.trans hsame) hmore,
      fun _ => .again (by omega) hafter.1 (hafter.2.1.trans hsame) hmore⟩

/-- **A run of frames** gets on with each that answers. -/
theorem Paces.progress (hg : g.Proper) (hK : IsLeast {k | 1 ≤ k ∧ g.Near k} K) (h : Paces ending n s t)
    (hs : s.gait = g) : Progress g K n t.gait := by
  induction h with
  | refl s =>
    have hstart : g.along 0 = s.gait := g.along_zero.trans hs.symm
    exact hstart ▸ .underWay hK.1.1
  | aside _ hgait ih => exact hgait ▸ ih hs
  | failed _ hr ih => exact ((ih hs).frame hg hK hr).1 _ rfl
  | answered _ hr ih => exact ((ih hs).frame hg hK hr).2 rfl

/-- **A frame on the way** takes nothing from the source for the walk, fails only where a wave would end before it
starts, and releases the legs if it is the last one. -/
theorem frame_underWay (hg : g.Proper) (hK : IsLeast {k | 1 ≤ k ∧ g.Near k} K)
    (hview : ¬ g.settings.view.Stuck) (hn : n < K) (hs : s.gait = g.along n) {answer : Except (Fault ℝ) Unit}
    (hr : (Brain.frame ending delta).run s = (answer, t)) :
    t.source = ((Brain.prelude ending).run (Brain.begin delta s)).2.source ∧
      (∀ fault, answer = .error fault → fault.Backward) ∧
      (answer = .ok () → n + 1 = K → t.brain.state.walk = .idle ∧ t.avatar.position = g.point K ∧
        ∀ joint ∈ legs, t.avatar.joints.get? joint.index = none) := by
  obtain ⟨hopen, hsettings, hchance, hphase⟩ := ready_of_gait hg hs
  have hwalk : s.brain.state.walk = .walking := hphase.trans hg.walking
  obtain ⟨hsource, hstep⟩ := Brain.gait_frame_walking ending delta hopen hchance hwalk
  rw [hr] at hsource hstep
  refine ⟨hsource, fun fault hfault => ?_, fun hok hlast => ?_⟩
  · rw [hfault] at hr
    exact Brain.backward_of_frame hopen hchance (hsettings ▸ hview) hr
  · obtain ⟨fault, hfault, -⟩ | ⟨-, hgait, hlegs⟩ := hstep
    · cases hok.symm.trans hfault
    · subst hlast
      rw [hs, Gait.strode_along_near hg hK.1.2] at hgait
      have hidle : t.brain.state.walk = .idle := congrArg Gait.phase hgait
      exact ⟨hidle, congrArg Gait.place hgait, hlegs hidle⟩

/-- A frame in which the bot sets out has a chance to do so, and finds a view that it can query. -/
theorem strikes_of_start {first : Scene ℝ κ τ} (hopen : s.brain.closed = false) (hidle : s.brain.state.walk = .idle)
    (hstart : (Brain.frame ending delta).run s = (.ok (), first)) (hwalk : first.brain.state.walk = .walking) :
    s.source.Strikes s.brain.settings.walk.chance ∧ ¬ s.brain.settings.view.Stuck := by
  rw [Brain.run_frame_open ending delta hopen, Brain.behave_eq] at hstart
  obtain ⟨⟨⟩, t, hprelude, hlast⟩ := run_bind_eq_ok hstart
  obtain ⟨hgait, -⟩ := Prod.mk.inj ((Brain.leaves_gait_prelude ending).of_run hprelude)
  constructor
  · have hleads : (Brain.begin delta s).source.Leads t.source := (Brain.draws_prelude ending).of_run hprelude
    have hidle' : t.brain.state.walk = .idle := (congrArg Gait.phase hgait).trans hidle
    have hset : t.brain.settings = s.brain.settings := congrArg Gait.settings hgait
    have hframe := Walk.gait_frame_idle hidle'
    rw [hlast] at hframe
    obtain hsame | ⟨-, hlt, -⟩ := hframe
    · exact absurd (hwalk.symm.trans ((congrArg Gait.phase hsame).trans hidle')) nofun
    · exact ⟨_, hleads.gives, hset ▸ hlt⟩
  · intro hstuck
    have hview : View.frame.run (Brain.begin delta s) = (.error .divisionByZero, Brain.begin delta s) :=
      View.run_frame_stuck hstuck
    have hlook : (discard View.frame : Play ℝ κ τ Unit).run (Brain.begin delta s) =
        (.error .divisionByZero, Brain.begin delta s) := by
      rw [Act.run_discard, hview]
      rfl
    rw [Brain.prelude, run_bind, hlook] at hprelude
    cases hprelude

/-- **A frame in which a bot sets out**: its chance is not zero, it stays where it is, and its view can be queried. -/
theorem sets_out {first : Scene ℝ κ τ} (hidle : s.brain.state.walk = .idle)
    (hstart : (Brain.frame ending delta).run s = (.ok (), first)) (hwalk : first.brain.state.walk = .walking)
    (hchance : s.source.Fair ∨ s.brain.settings.walk.chance ≠ 0) :
    s.brain.closed = false ∧ s.brain.settings.walk.chance ≠ 0 ∧ ¬ s.brain.settings.view.Stuck ∧ ∃ target heading,
      first.gait = { s.gait with phase := .walking, target, heading, walks := s.gait.walks + 1 } := by
  have hopen : s.brain.closed = false := by
    cases hclosed : s.brain.closed with
    | false => rfl
    | true =>
      rw [Brain.run_frame_closed ending delta hclosed] at hstart
      cases hstart
      cases hidle.symm.trans hwalk
  obtain ⟨⟨r, ⟨t, ht, rfl⟩, hlt⟩, hview⟩ := strikes_of_start hopen hidle hstart hwalk
  -- a chance that a fair source strikes is above zero
  have hpositive : s.brain.settings.walk.chance ≠ 0 := by
    refine hchance.elim (fun hfair hzero => ?_) id
    rw [hzero] at hlt
    exact absurd hlt (not_lt.2 (hfair.fraction ht).1)
  have hset := Brain.gait_frame_idle ending delta hopen (Scalar.beq_zero_of_ne hpositive) hidle
  rw [hstart] at hset
  obtain hsame | ⟨-, hgait⟩ := hset
  · exact absurd (hwalk.symm.trans ((congrArg Gait.phase hsame).trans hidle)) nofun
  · exact ⟨hopen, hpositive, hview, hgait⟩

/-- **Every walk arrives.**  A walk that a frame has started leaves after each step the same fraction of the way, keeps
its target and its heading, and takes nothing from the source; it ends with the first step after which the rest of the
way is within the tolerance, and then the legs are released.  The bot stays there until it sets out again. -/
theorem arrives {first : Scene ℝ κ τ} (hidle : s.brain.state.walk = .idle)
    (hstart : (Brain.frame ending delta).run s = (.ok (), first)) (hwalk : first.brain.state.walk = .walking)
    (hchance : s.source.Fair ∨ s.brain.settings.walk.chance ≠ 0)
    (hrate : 0 < s.brain.settings.walk.moveRate ∧ s.brain.settings.walk.moveRate ≤ 1)
    (htolerance : 0 < s.brain.settings.walk.stopTolerance) :
    let rest := 1 - s.brain.settings.walk.moveRate
    let target := first.brain.state.targetPosition
    let way := s.avatar.position - target
    first.avatar.position = s.avatar.position ∧
    ∃ K, IsLeast {k | 1 ≤ k ∧ rest ^ k * way.length < s.brain.settings.walk.stopTolerance} K ∧
      ∀ n c, Paces ending n first c →
        (n < K →
          c.brain.state.walk = .walking ∧ c.avatar.position = target + way * rest ^ n ∧
          c.brain.state.targetPosition = target ∧
          c.brain.state.targetOrientation = first.brain.state.targetOrientation ∧
          ∀ delta answer u, (Brain.frame ending delta).run c = (answer, u) →
            u.source = ((Brain.prelude ending).run (Brain.begin delta c)).2.source ∧
            (∀ fault, answer = .error fault → fault.Backward) ∧
            (answer = .ok () → n + 1 = K → u.brain.state.walk = .idle ∧ u.avatar.position = target + way * rest ^ K ∧
              ∀ joint ∈ legs, u.avatar.joints.get? joint.index = none)) ∧
        (K ≤ n → c.brain.walks = first.brain.walks →
          c.brain.state.walk = .idle ∧ c.avatar.position = target + way * rest ^ K) := by
  intro rest target way
  obtain ⟨hopen, hpositive, hview, aim, heading, hgait⟩ := sets_out hidle hstart hwalk hchance
  have hplace : first.avatar.position = s.avatar.position := congrArg Gait.place hgait
  have hsettings : first.gait.settings = s.brain.settings := congrArg Gait.settings hgait
  have hproper : first.gait.Proper :=
    ⟨(congrArg Gait.closed hgait).trans hopen, hsettings.symm ▸ hpositive, hsettings.symm ▸ hrate,
      hsettings.symm ▸ htolerance, hwalk⟩
  have hpoint : ∀ k, first.gait.point k = target + way * rest ^ k := by
    intro k
    change first.brain.state.targetPosition + (first.avatar.position - first.brain.state.targetPosition) *
      (1 - first.gait.settings.walk.moveRate) ^ k = _
    rw [hplace, hsettings]
  have hnear : ∀ k, first.gait.Near k ↔ rest ^ k * way.length < s.brain.settings.walk.stopTolerance := by
    intro k
    change (1 - first.gait.settings.walk.moveRate) ^ k *
      (first.avatar.position - first.brain.state.targetPosition).length < first.gait.settings.walk.stopTolerance ↔ _
    rw [hplace, hsettings]
  obtain ⟨K, hK⟩ := Gait.exists_isLeast_near hproper
  refine ⟨hplace, K, ?_, fun n c hpaces => ?_⟩
  · simpa only [hnear] using hK
  have hprogress := hpaces.progress hproper hK rfl
  generalize hc : c.gait = f at hprogress
  constructor
  · intro hn
    have halong : c.gait = first.gait.along n := by
      cases hprogress with
      | underWay => exact hc
      | finished hle => omega
      | again hle => omega
    refine ⟨(congrArg Gait.phase halong).trans hwalk, (congrArg Gait.place halong).trans (hpoint n),
      congrArg Gait.target halong, congrArg Gait.heading halong, fun delta answer u hr => ?_⟩
    rw [← hpoint K]
    exact frame_underWay hproper hK (hsettings.symm ▸ hview) hn halong hr
  · intro hn hwalks
    rw [← hpoint K]
    cases hprogress with
    | underWay hlt => omega
    | finished => exact ⟨congrArg Gait.phase hc, congrArg Gait.place hc⟩
    | again _ _ _ hmore =>
      subst hc
      exact absurd hwalks (Nat.ne_of_gt hmore)

/-- A walk from the origin into the box, started by a frame in which no other chance strikes. -/
theorem arrives_fresh :
    let settings : Settings ℝ := { Settings.standard with view := ⟨false, 60.0⟩ }
    let s : Scene ℝ Unit ℕ := { Host.fresh with
      source := .scripted [0.5, 0.5, 0.5, 0.0] 0.5
      brain := .opening settings .standard [] .zero .fresh }
    ∃ first, (Brain.frame id 0.1).run s = (.ok (), first) ∧ first.avatar.position = .zero ∧
      ∃ K, IsLeast {k | 1 ≤ k ∧
        (1 - 0.05 : ℝ) ^ k * (.zero - first.brain.state.targetPosition : Vec3 ℝ).length < 0.05} K := by
  intro settings s
  let begun : Scene ℝ Unit ℕ := Brain.begin 0.1 s
  let spared : Scene ℝ Unit ℕ := Head.ease begun.drawn.drawn.drawn
  have hquiet : (Brain.overture id).run begun = (.ok (), begun.drawn.drawn) :=
    Brain.run_overture_quiet id rfl rfl (show ¬ (0.5 : ℝ) < 0.009 by norm_num) (show ¬ (0.5 : ℝ) < 0.0 by norm_num)
  have hhead : Head.frame.run begun.drawn.drawn = (.ok (), spared) := by
    rw [Head.run_frame]
    exact if_neg (show ¬ (0.5 : ℝ) < 0.05 by norm_num)
  have hprelude : (Brain.prelude id).run begun = (.ok (), spared) := by
    rw [Brain.prelude_eq, run_bind, hquiet]
    exact hhead
  have hyaw : Scalar.isInfinite (Quat.halfAngle (nextYaw spared.drawn)) = false := rfl
  obtain ⟨turn, hturn⟩ := Quat.angleAxis_of_ordinary hyaw .up
  have hstart : (Brain.frame id 0.1).run s = (.ok (), chosen turn spared.drawn) := by
    rw [Brain.run_frame_open id 0.1 rfl, Brain.behave_eq, run_bind, hprelude]
    change Walk.frame.run spared = _
    rw [Walk.run_frame]
    refine (if_pos (show (0.0 : ℝ) < 0.005 by norm_num)).trans ?_
    rw [run_pickTarget, hturn]
  have hfive : (0 : ℝ) < 0.05 ∧ (0.05 : ℝ) ≤ 1 := by norm_num
  obtain ⟨hplace, K, hK, -⟩ := arrives rfl hstart rfl (.inr (show (0.005 : ℝ) ≠ 0 by norm_num)) hfive hfive.1
  exact ⟨_, hstart, hplace, K, hK⟩

end Walk
end Bystander
