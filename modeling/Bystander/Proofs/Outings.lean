import Bystander.Proofs.Arrival
import Bystander.Proofs.Alone
import Bystander.Proofs.Completion
/-! # Bots that are sure to move

A chance above all fractions that a source gives is sure to strike.  Where nothing troubles the frames of a session
(`Settings.Untroubled`), a bot whose chances are sure waves and walks from its first frame on, and the joints of what
goes on are held: the elbow from the start of a wave, hip and knee from the first step of a walk.
-/
namespace Bystander

open Scalar (Elapses)
open Act (Obeys run_bind run_bind_eq_ok)

variable {α κ τ : Type} [Scalar α]

/-- A chance above every fraction that a source gives. -/
def Source.Surely (source : Source α) (chance : α) : Prop := ∀ r, source.Gives r → r < chance

/-- **A walk that has set out** from where the bot faces, with a turn that was drawn. -/
structure Walk.SetOut (settings : WalkSettings α) (source : Source α) (facing : Quat α) (t : Scene α κ τ) : Prop where
  walking : t.brain.state.walk = .walking
  body : t.avatar.orientation = facing
  turn : ∃ r turn, source.Gives r ∧ t.brain.state.targetOrientation = facing * turn ∧
    Quat.angleAxis (Scalar.between (-settings.turnRange) settings.turnRange r) .up = .ok turn

/-! ## What goes on is held -/

namespace Walk

variable {s t : Scene α κ τ}

/-- **A walk that goes on** holds hip and knee. -/
theorem held_of_stride (hr : stride.run s = (.ok (), t)) (hwalk : t.brain.state.walk = .walking) :
    ∀ joint ∈ legs, t.avatar.joints.get? joint.index ≠ none := by
  intro joint hj
  obtain ⟨fault, hfault⟩ | ⟨sine, ⟨fault, hfault⟩ | ⟨orientation, -, hmoved | harrived⟩⟩ := stride_cases s
  · cases hfault.symm.trans hr
  · cases hfault.symm.trans hr
  · obtain ⟨-, rfl⟩ := Prod.mk.inj (hmoved.symm.trans hr)
    change (s.avatar.setJoints legs _).joints.get? joint.index ≠ none
    rw [Avatar.get?_setJoints, if_pos (List.mem_map_of_mem hj)]
    exact Option.some_ne_none _
  · obtain ⟨-, rfl⟩ := Prod.mk.inj (harrived.symm.trans hr)
    cases hwalk

/-- What a walk does not touch: the wave, and the elbow. -/
theorem leaves_elbow : Obeys (leaving fun s =>
    (s.brain.state.wave, s.brain.state.episode, s.avatar.joints.get? Joint.elbow.index))
      (frame : Play α κ τ Unit) := by
  have hswung : ∀ (sine : α) (s : Scene α κ τ),
      (swung sine s).avatar.joints.get? Joint.elbow.index = s.avatar.joints.get? Joint.elbow.index :=
    fun sine s => (Avatar.get?_setJoints _ _ _ _).trans (if_neg (by decide))
  have harrived : ∀ s : Scene α κ τ,
      (arrived s).avatar.joints.get? Joint.elbow.index = s.avatar.joints.get? Joint.elbow.index :=
    fun s => (Avatar.get?_clearJoints _ _ _).trans (if_neg (by decide))
  intro s
  rw [run_frame]
  cases s.brain.state.walk with
  | walking =>
    obtain ⟨fault, hr⟩ | ⟨sine, ⟨fault, hr⟩ | ⟨orientation, -, hr | hr⟩⟩ := stride_cases s
    all_goals
      dsimp only
      rw [hr]
    · rfl
    · exact congrArg (s.brain.state.wave, s.brain.state.episode, ·) (hswung sine s)
    · exact congrArg (s.brain.state.wave, s.brain.state.episode, ·) (hswung sine s)
    · exact congrArg (s.brain.state.wave, s.brain.state.episode, ·) ((harrived _).trans (hswung sine s))
  | idle =>
    dsimp only
    split
    · obtain ⟨fault, hr⟩ | ⟨turn, -, hr⟩ := pickTarget_cases s.drawn
      all_goals
        rw [hr]
        rfl
    · rfl

end Walk

namespace Wave

variable {s t : Scene α κ τ}

/-- Joints that are rolled are held, and so are those that were. -/
theorem held_rolled {joint : Joint} : ∀ (pairs : List (Joint × α)) (s : Scene α κ τ),
    joint ∈ pairs.map Prod.fst ∨ s.avatar.joints.get? joint.index ≠ none →
      (rolled pairs s).avatar.joints.get? joint.index ≠ none
  | [], s, h => h.resolve_left List.not_mem_nil
  | p :: pairs, s, h => by
    refine held_rolled pairs { s with avatar := s.avatar.setJoints [p.1] (.ofPitchYawRoll 0.0 0.0 p.2) } ?_
    rw [Avatar.get?_setJoints]
    split
    · exact .inr (Option.some_ne_none _)
    · next hp =>
      refine h.imp_left fun hmem => (List.mem_cons.1 hmem).resolve_left fun heq => hp ?_
      rw [heq]
      exact List.mem_singleton_self _

/-- A wave that starts holds the elbow. -/
theorem held_of_start {ending : Nat → τ} {episode : Episode α} (hr : (start ending).run s = (.ok episode, t)) :
    t.brain.state.wave = .waving ∧ t.brain.state.episode.isSome = true ∧
      t.avatar.joints.get? Joint.elbow.index ≠ none := by
  rw [run_start] at hr
  cases hset : s.scheduler.setTimeout (ending (s.brain.arm.count + 1)) (s.brain.arm.nextDuration s.source) with
  | error fault =>
    rw [hset] at hr
    cases hr
  | ok scheduler =>
    rw [hset] at hr
    obtain ⟨-, rfl⟩ := Prod.mk.inj hr
    refine ⟨rfl, rfl, ?_⟩
    change (s.avatar.setJoints [.elbow] _).joints.get? Joint.elbow.index ≠ none
    rw [Avatar.get?_setJoints, if_pos (by decide)]
    exact Option.some_ne_none _

/-- A wave that goes on holds it too. -/
theorem held_of_roll {episode : Episode α} (hr : (roll episode).run s = (.ok (), t)) :
    t.brain = s.brain ∧ t.avatar.joints.get? Joint.elbow.index ≠ none := by
  rw [run_roll] at hr
  cases hrolls : rolls s.brain.settings.wave episode.frequency episode.amplitude s.brain.state.clock with
  | error fault =>
    rw [hrolls] at hr
    cases hr
  | ok pairs =>
    rw [hrolls] at hr
    obtain ⟨-, rfl⟩ := Prod.mk.inj hr
    have hraised : Joint.elbow ∈ pairs.map Prod.fst := by
      rw [map_fst_rolls hrolls]
      decide
    have helbow := held_rolled pairs s (.inl hraised)
    obtain ⟨joints, hrolled⟩ := exists_joints_rolled pairs s
    rw [hrolled] at helbow ⊢
    exact ⟨rfl, helbow⟩

/-- **A frame that is sure to wave** holds the elbow when it answers, whether the wave starts or goes on. -/
theorem held_of_frame {ending : Nat → τ} (hsure : s.source.Surely s.brain.settings.wave.chance)
    (hepisode : s.brain.state.wave = .waving → s.brain.state.episode.isSome = true)
    (hr : (frame ending).run s = (.ok (), t)) :
    t.brain.state.wave = .waving ∧ t.brain.state.episode.isSome = true ∧
      t.avatar.joints.get? Joint.elbow.index ≠ none := by
  rw [run_frame] at hr
  cases hwave : s.brain.state.wave with
  | idle =>
    rw [hwave] at hr
    dsimp only at hr
    rw [if_pos (hsure _ (Source.Leads.refl s.source).gives)] at hr
    obtain ⟨episode, hstart, -⟩ := Act.run_map_eq_ok hr
    exact held_of_start hstart
  | waving =>
    obtain ⟨episode, he⟩ := Option.isSome_iff_exists.1 (hepisode hwave)
    rw [hwave, he] at hr
    obtain ⟨hbrain, helbow⟩ := held_of_roll hr
    rw [hbrain, hwave, he]
    exact ⟨rfl, rfl, helbow⟩

end Wave

/-! ## Frames -/

namespace Brain

variable {ending : Nat → τ} {delta : α} {s t : Scene α κ τ}

/-- **A bot that is sure to wave** waves after a frame that answers, with its elbow held. -/
theorem waves_of_surely (hopen : s.brain.closed = false) (hsure : s.source.Surely s.brain.settings.wave.chance)
    (hepisode : s.brain.state.wave = .waving → s.brain.state.episode.isSome = true)
    (hr : (frame ending delta).run s = (.ok (), t)) :
    t.brain.state.wave = .waving ∧ t.brain.state.episode.isSome = true ∧
      t.avatar.joints.get? Joint.elbow.index ≠ none := by
  rw [run_frame_open ending delta hopen, behave] at hr
  obtain ⟨⟨⟩, u, hview, hr⟩ := run_bind_eq_ok hr
  obtain ⟨⟨⟩, v, hwave, hr⟩ := run_bind_eq_ok hr
  have hheld : v.brain.state.wave = .waving ∧ v.brain.state.episode.isSome = true ∧
      v.avatar.joints.get? Joint.elbow.index ≠ none := by
    obtain ⟨_, _, _, -, rfl⟩ := (View.obeys_frame.map _).of_run hview
    refine Wave.held_of_frame ?_ ?_ hwave
    · exact hsure
    · exact hepisode
  have hrest : Obeys (leaving fun s =>
      (s.brain.state.wave, s.brain.state.episode, s.avatar.joints.get? Joint.elbow.index)) (do
        discard Chatter.frame
        Head.frame
        Walk.frame : Play α κ τ Unit) := by
    refine obeys_rest ?_ ?_ Walk.leaves_elbow
    · rintro s t ⟨_, _, _, _, -, rfl⟩
      rfl
    · rintro s t ⟨_, _, _, _, _, -, rfl⟩
      rfl
  have hleft := hrest.of_run hr
  simp only [leaving, Prod.mk.injEq] at hleft
  obtain ⟨hphase, hnumber, helbow⟩ := hleft
  rw [hphase, hnumber, helbow]
  exact hheld

/-- **A wave that begins** asks for its end, by a duration that the source gives. -/
theorem asks_of_begun (hidle : s.brain.state.wave = .idle) (hr : (frame ending delta).run s = (.ok (), t))
    (hwave : t.brain.state.wave = .waving) : ∃ r, s.source.Gives r ∧
      t.scheduler = s.scheduler.asked (ending (s.brain.state.waveCount + 1)) (s.brain.settings.wave.duration r) := by
  have hgoes := arm_frame ending delta s
  rw [hr] at hgoes
  rcases hgoes with ⟨-, harm⟩ | ⟨-, -, -, hscheduler⟩
  · have hsame : t.brain.state.wave = s.brain.state.wave := congrArg Arm.phase harm
    rw [hwave, hidle] at hsame
    cases hsame
  · exact ⟨_, (Source.Leads.refl s.source).fraction.fraction.fraction.gives, hscheduler⟩

/-- What comes before the walk does not turn the body, nor where the brain believes it to face. -/
theorem leaves_facing_prelude (ending : Nat → τ) :
    Obeys (leaving fun s => (s.avatar.orientation, s.brain.state.orientation)) (prelude ending : Play α κ τ Unit) := by
  apply obeys_prelude
  · rintro s t ⟨_, _, _, -, rfl⟩
    rfl
  · rintro s t ⟨_, _, _, _, _, _, _, -, rfl⟩
    rfl
  · rintro s t ⟨_, _, _, _, -, rfl⟩
    rfl
  · rintro s t ⟨_, _, _, _, _, -, rfl⟩
    rfl

/-- **A bot that is sure to walk** has set out after a frame that answers and found it at rest. -/
theorem walks_of_surely (hopen : s.brain.closed = false) (hsure : s.source.Surely s.brain.settings.walk.chance)
    (hchance : (s.brain.settings.walk.chance == 0.0) = false) (hidle : s.brain.state.walk = .idle)
    (hr : (frame ending delta).run s = (.ok (), t)) :
    Walk.SetOut s.brain.settings.walk s.source s.avatar.orientation t := by
  obtain ⟨answer, u, hprelude, hgait, -, ⟨fault, -, hfault⟩ | ⟨-, hwalk⟩⟩ := frame_cases ending delta hopen hchance
  · cases hfault.symm.trans hr
  · have hleads : (begin delta s).source.Leads u.source := (draws_prelude ending).of_run hprelude
    have hidle' : u.brain.state.walk = .idle := (congrArg Gait.phase hgait).trans hidle
    have hsettings : u.brain.settings = s.brain.settings := congrArg Gait.settings hgait
    have hbegun : (begin delta s).avatar = s.avatar := by
      unfold begin
      dsimp only
      rw [hchance]
      rfl
    obtain ⟨hbody, hbelief⟩ := Prod.mk.inj ((leaves_facing_prelude ending).of_run hprelude)
    have hfacing : (begin delta s).brain.state.orientation = s.avatar.orientation := congrArg Avatar.orientation hbegun
    have hstrikes : u.source.draw.1 < u.brain.settings.walk.chance := hsettings ▸ hsure _ hleads.gives
    rw [hwalk, Walk.run_frame, hidle'] at hr
    dsimp only at hr
    rw [if_pos hstrikes] at hr
    obtain ⟨fault, hfault⟩ | ⟨turn, hturn, hchosen⟩ := Walk.pickTarget_cases u.drawn
    · cases hfault.symm.trans hr
    · obtain ⟨-, rfl⟩ := Prod.mk.inj (hchosen.symm.trans hr)
      refine ⟨rfl, hbody.trans (congrArg Avatar.orientation hbegun), _, turn, hleads.fraction.gives, ?_, ?_⟩
      · rw [← hfacing, ← hbelief]
        rfl
      · rw [← hsettings]
        exact hturn

/-- **A bot that walks and goes on walking** holds hip and knee after a frame that answers. -/
theorem legs_held (hopen : s.brain.closed = false) (hchance : (s.brain.settings.walk.chance == 0.0) = false)
    (hbefore : s.brain.state.walk = .walking) (hr : (frame ending delta).run s = (.ok (), t))
    (hafter : t.brain.state.walk = .walking) : ∀ joint ∈ Walk.legs, t.avatar.joints.get? joint.index ≠ none := by
  obtain ⟨answer, u, -, hgait, -, ⟨fault, -, hfault⟩ | ⟨-, hwalk⟩⟩ := frame_cases ending delta hopen hchance
  · cases hfault.symm.trans hr
  · have hbefore' : u.brain.state.walk = .walking := (congrArg Gait.phase hgait).trans hbefore
    rw [hwalk, Walk.run_frame, hbefore'] at hr
    exact Walk.held_of_stride hr hafter

end Brain

/-! ## Sessions that nothing troubles -/

/-- **Settings that trouble no frame**: the view can be queried, all durations elapse, and numbers stay of ordinary
size. -/
structure Settings.Untroubled (settings : Settings α) (source : Source α) : Prop where
  view : ¬ settings.view.Stuck
  durations : ∀ r, source.Gives r → Elapses (settings.wave.duration r)
  sounds : source.PicksSounds
  ordinary : ∀ t, settings.Ordinary source t

theorem ViewSettings.not_stuck_standard : ¬ (ViewSettings.standard : ViewSettings ℝ).Stuck := fun h => by
  have hrate : ((60.0 : ℝ) == 0.0) = false := Scalar.beq_zero_of_ne (by norm_num)
  exact Bool.noConfusion (hrate.symm.trans h.2)

/-- Over the reals only a stuck view and durations that are negative could trouble a frame. -/
theorem Settings.untroubled_real {settings : Settings ℝ} {source : Source ℝ} (hview : ¬ settings.view.Stuck)
    (hfair : source.Fair) (hdurations : 0 ≤ settings.wave.minDuration ∧ 0 ≤ settings.wave.durationJitter) :
    settings.Untroubled source where
  view := hview
  durations := by
    rintro r ⟨t, ht, rfl⟩
    refine ⟨rfl, ?_⟩
    have hjitter := mul_nonneg (hfair.fraction ht).1 hdurations.2
    rw [Scalar.zero_literal, not_lt]
    exact add_nonneg hdurations.1 hjitter
  sounds _ _ := rfl
  ordinary t :=
    ⟨fun _ => ⟨fun _ _ => rfl, fun _ _ => rfl, fun _ _ => rfl⟩, fun _ => settings.walk.ordinary_real source t⟩

theorem Source.surely_real {source : Source ℝ} (hfair : source.Fair) {chance : ℝ} (h : 1 ≤ chance) :
    source.Surely chance := by
  rintro r ⟨t, ht, rfl⟩
  exact lt_of_lt_of_le (hfair.fraction ht).2 h

/-- The ends of waves leave the gait alone, and where the body faces. -/
theorem Scene.gait_rings {s t : Scene α κ τ} {delta : α} (h : Rings (s.ticked delta) t) :
    t.gait = s.gait ∧ t.avatar.orientation = s.avatar.orientation := by
  obtain ⟨_, _, _, _, _, _, -, -, -, rfl⟩ := h
  exact ⟨rfl, rfl⟩

namespace Bot

variable {settings : Settings α} {source : Source α} {time delta : α} {s : BotStage α Empty}
  {c : Scene α (Callback Empty) (Alarm Empty)}

omit [Scalar α] in
theorem Shows.avatar (h : Shows s c) : s.avatar = c.avatar := congrArg (·.avatar) h.scene

/-- **A frame that nothing troubles** answers, and its brain finds the scene as the ends of waves leave it. -/
theorem Shows.run_step_untroubled (huntroubled : settings.Untroubled source) (h : Shows s c) (hc : c.Lone)
    (horder : c.InOrder settings source time) (hd : ¬ delta < 0.0) :
    ∃ d t e, Scene.Rings (c.ticked delta) d ∧ d.brain.closed = false ∧
      (Brain.frame (.waveEnd 0) delta).run d = (.ok (), e) ∧ (step .absent delta).run s = (.ok (), t) ∧ Shows t e ∧
      e.Lone ∧ e.InOrder settings source (time + Brain.effectiveDelta delta) := by
  obtain ⟨d, hrings, -, t, hr, ht⟩ := h.run_step hc hd
  have hlone : d.Lone := (hc.ticked delta).rings hrings
  obtain ⟨hallows, hafter⟩ := Brain.allows_frame (.waveEnd 0) hlone.opened (horder.rings hrings) huntroubled.sounds
    (huntroubled.ordinary (time + Brain.effectiveDelta delta))
  rw [Settings.Allows, if_neg huntroubled.view] at hallows
  have hlone' := hlone.frame delta
  rcases hframe : (Brain.frame (.waveEnd 0) delta).run d with ⟨fault | ⟨⟩, e⟩
  all_goals rw [hframe] at hr ht hallows hafter hlone'
  · obtain ⟨-, r, hgives, hrefused, -⟩ := hallows fault rfl
    exact absurd (huntroubled.durations r hgives) hrefused
  · exact ⟨d, t, e, hrings, hlone.opened, hframe, hr, ht, hlone', hafter⟩

omit [Scalar α] in
/-- A stage shows one scene only. -/
theorem Shows.unique {d : Scene α (Callback Empty) (Alarm Empty)} (h : Shows s c) (h' : Shows s d) : c = d := by
  have hbrain : c.brain = d.brain := (List.cons.inj (h.brains.symm.trans h'.brains)).1
  rw [← h.scene, ← h'.scene, hbrain]

/-- **The end of a wave that begins** in a frame that nothing troubles is pending when the frame answers. -/
theorem Shows.end_pending (huntroubled : settings.Untroubled source) (h : Shows s c) (hc : c.Lone)
    (horder : c.InOrder settings source time) (hd : ¬ delta < 0.0) (hidle : c.brain.state.wave = .idle)
    {t : BotStage α Empty} {e : Scene α (Callback Empty) (Alarm Empty)}
    (hr : (step .absent delta).run s = (.ok (), t)) (ht : Shows t e) (hwave : e.brain.state.wave = .waving) :
    ∃ r, source.Gives r ∧ ∃ timer ∈ t.scheduler.timers,
      timer.due = s.scheduler.now + delta + settings.wave.duration r / 1000.0 := by
  obtain ⟨d, u, e', hrings, -, hframe, hr', hu, -⟩ := h.run_step_untroubled huntroubled hc horder hd
  obtain rfl : t = u := (Prod.mk.inj (hr.symm.trans hr')).2
  obtain rfl : e = e' := ht.unique hu
  have hfound : d.InOrder settings source time := horder.rings hrings
  have hrest : d.brain.state.wave = .idle ∧ d.scheduler.now = s.scheduler.now + delta := by
    rw [h.scheduler]
    obtain ⟨_, _, _, _, _, _, -, -, ⟨rfl, rfl⟩ | ⟨rfl, rfl⟩, rfl⟩ := hrings
    · exact ⟨hidle, rfl⟩
    · exact ⟨rfl, rfl⟩
  obtain ⟨r, hgives, hscheduler⟩ := Brain.asks_of_begun hrest.1 hframe hwave
  have hgives' : source.Gives r := hgives.of_leads hfound.leads
  refine ⟨r, hgives', ?_⟩
  rw [ht.scheduler, hscheduler, hfound.told, ← hrest.2]
  exact ⟨_, Scheduler.mem_asked_self (huntroubled.durations r hgives') _ _, rfl⟩

/-- **What is sure to go on goes on.**  In a frame that nothing troubles a bot that is sure to wave waves, one that is
sure to walk sets out if it was at rest, and one that walks takes a step; the elbow is held by the wave, and the legs by
a walk that goes on. -/
theorem Shows.run_step_surely (huntroubled : settings.Untroubled source) (h : Shows s c) (hc : c.Lone)
    (horder : c.InOrder settings source time) (hd : ¬ delta < 0.0) (hchance : (settings.walk.chance == 0.0) = false)
    (hepisode : c.brain.state.wave = .waving → c.brain.state.episode.isSome = true) :
    ∃ t e, (step .absent delta).run s = (.ok (), t) ∧ Shows t e ∧ e.Lone ∧
      e.InOrder settings source (time + Brain.effectiveDelta delta) ∧
      (source.Surely settings.wave.chance → e.brain.state.wave = .waving ∧ e.brain.state.episode.isSome = true ∧
        e.avatar.joints.get? Joint.elbow.index ≠ none) ∧
      (c.brain.state.walk = .idle → source.Surely settings.walk.chance →
        Walk.SetOut settings.walk source c.avatar.orientation e) ∧
      (c.brain.state.walk = .walking → e.gait = c.gait.strode ∧
        (e.brain.state.walk = .walking → ∀ joint ∈ Walk.legs, e.avatar.joints.get? joint.index ≠ none)) := by
  obtain ⟨d, t, e, hrings, hopen, hframe, hr, ht, hlone, hafter⟩ := h.run_step_untroubled huntroubled hc horder hd
  have hd : d.InOrder settings source time := horder.rings hrings
  obtain ⟨hgait, hfacing⟩ := Scene.gait_rings hrings
  have hphase : d.brain.state.walk = c.brain.state.walk := congrArg Gait.phase hgait
  have hsurely : ∀ {chance : α}, source.Surely chance → d.source.Surely chance := fun hsure r hr =>
    hsure r (hr.of_leads hd.leads)
  have hchance' : (d.brain.settings.walk.chance == 0.0) = false := hd.told ▸ hchance
  refine ⟨t, e, hr, ht, hlone, hafter, fun hsure => ?_, fun hidle hsure => ?_, fun hwalk => ?_⟩
  · refine Brain.waves_of_surely hopen (hd.told ▸ hsurely hsure) (fun hwave => ?_) hframe
    obtain ⟨_, _, _, _, _, _, -, -, ⟨rfl, rfl⟩ | ⟨rfl, rfl⟩, rfl⟩ := hrings
    · exact hepisode hwave
    · cases hwave
  · obtain ⟨hwalking, hbody, r, turn, hgives, htarget, hturn⟩ :=
      Brain.walks_of_surely hopen (hd.told ▸ hsurely hsure) hchance' (hphase.trans hidle) hframe
    rw [hfacing] at hbody htarget
    exact ⟨hwalking, hbody, r, turn, hgives.of_leads hd.leads, htarget, hd.told ▸ hturn⟩
  · have hwalk' := hphase.trans hwalk
    obtain ⟨-, hstep⟩ := Brain.gait_frame_walking (.waveEnd 0) delta hopen hchance' hwalk'
    rw [hframe, hgait] at hstep
    obtain ⟨fault, hfault, -⟩ | ⟨-, hstrode, -⟩ := hstep
    · cases hfault
    · exact ⟨hstrode, Brain.legs_held hopen hchance' hwalk' hframe⟩

/-- **A bot that is sure to move sets out with the first frame** of a session on a fresh host. -/
theorem sets_out_at_once {config : BotConfig α} {first : BotStage α Empty} {answer : Bool}
    (hstart : (start config).run (waiting source) = (.ok answer, first))
    (huntroubled : config.settings.Untroubled source) (hd : ¬ delta < 0.0)
    (hchance : (config.settings.walk.chance == 0.0) = false) (hwalk : source.Surely config.settings.walk.chance) :
    ∃ t e, (step .absent delta).run first = (.ok (), t) ∧ Shows t e ∧ e.Lone ∧
      e.InOrder config.settings source (0.0 + Brain.effectiveDelta delta) ∧
      Walk.SetOut config.settings.walk source first.avatar.orientation e ∧
      (source.Surely config.settings.wave.chance → e.brain.state.wave = .waving ∧
        e.brain.state.episode.isSome = true ∧ e.avatar.joints.get? Joint.elbow.index ≠ none) := by
  obtain ⟨c, hc, hlone, horder, spawn, avatar, hbrain⟩ := inOrder_of_start hstart
  have hidle : c.brain.state.walk = .idle := by
    rw [hbrain]
    rfl
  have hrest : c.brain.state.wave = .waving → c.brain.state.episode.isSome = true := by
    rw [hbrain]
    exact nofun
  obtain ⟨t, e, hr, ht, hlone', horder', hwaves, hwalks, -⟩ :=
    hc.run_step_surely huntroubled hlone horder hd hchance hrest
  exact ⟨t, e, hr, ht, hlone', horder', hc.avatar ▸ hwalks hidle hwalk, hwaves⟩

/-! ### A bot that walks whenever it can -/

/-- A bot that walks whenever it can. -/
noncomputable def walker : BotConfig ℝ :=
  let settings : Settings ℝ := { Settings.standard with walk := { WalkSettings.standard with chance := 1.0 } }
  { BotConfig.standard with assets := ⟨"assets", some 1⟩, settings }

/-- **The walker walks** after its first frame, whatever fair source it has, towards a point that lies where it faces
but for a turn that was drawn. -/
theorem walker_walks {source : Source ℝ} (hfair : source.Fair) {first : BotStage ℝ Empty} {answer : Bool}
    (hstart : (start walker).run (waiting source) = (.ok answer, first)) {delta : ℝ} (hd : ¬ delta < 0.0) :
    ∃ brain, ((step .absent delta).run first).2.cast.brains = [brain] ∧ brain.state.walk = .walking ∧
      ((step .absent delta).run first).2.avatar.orientation = first.avatar.orientation ∧ ∃ r, source.Gives r ∧
        brain.state.targetOrientation = first.avatar.orientation * Quat.ofYaw (Scalar.between (-70.0) 70.0 r) := by
  have hone : (1 : ℝ) ≤ 1.0 ∧ (0 : ℝ) ≤ 1000.0 ∧ (0 : ℝ) ≤ 2000.0 := by norm_num
  have huntroubled : walker.settings.Untroubled source :=
    Settings.untroubled_real ViewSettings.not_stuck_standard hfair hone.2
  have hchance : (walker.settings.walk.chance == 0.0) = false :=
    Scalar.beq_zero_of_ne (show (1.0 : ℝ) ≠ 0 by norm_num)
  obtain ⟨t, e, hr, ht, -, -, ⟨hwalking, hbody, r, turn, hgives, htarget, hturn⟩, -⟩ :=
    sets_out_at_once hstart huntroubled hd hchance (Source.surely_real hfair hone.1)
  rw [Quat.angleAxis_up] at hturn
  cases hturn
  rw [hr]
  exact ⟨e.brain, ht.brains, hwalking, ht.avatar ▸ hbody, r, hgives, htarget⟩

end Bot
end Bystander
