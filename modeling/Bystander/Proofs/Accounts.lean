import Bystander.Proofs.Arms
import Bystander.Proofs.Cues
import Bystander.Proofs.Silence
import Bystander.Proofs.Tally
/-! # The draws of a run

The timers of a frame draw nothing, so a run of one brain takes what its frames take and what is asked of it by hand.
-/
namespace Bystander

open Act (Obeys run_bind run_bind_eq_ok)

variable {α κ τ β : Type} [Scalar α]

/-! ## What the stage keeps -/

/-- What only frames, draws by hand and a close change. -/
def Scene.books (c : Scene α κ τ) : Source α × List κ × Bool × Starts :=
  (c.source, c.scheduler.callbacks, c.brain.closed, c.brain.starts)

namespace Bot

variable {k : Nat} {s t : BotStage α Empty} {b : Brain α}

/-- **A brain that is open and called by each frame**, and nothing else is. -/
structure Serves (k : Nat) (s : BotStage α Empty) (b : Brain α) : Prop where
  brain : s.cast.brains[k]? = some b
  opened : b.closed = false
  callbacks : s.scheduler.callbacks = [.brain k]

def books (k : Nat) (s : BotStage α Empty) : Source α × List (Callback Empty) × Option (Bool × Starts) :=
  (s.cast.source, s.scheduler.callbacks, s.cast.brains[k]?.map fun b => (b.closed, b.starts))

omit [Scalar α] in
theorem leaves_onBrain {play : Play α (Callback Empty) (Alarm Empty) β} (h : Obeys (leaving Scene.books) play)
    (k j : Nat) : Obeys (leaving (books k)) (onBrain j play) := by
  refine obeys_onBrain fun s brain hb => ?_
  have hkept : Scene.books _ = Scene.books (scene s brain) := h (scene s brain)
  generalize (play.run (scene s brain)).2 = c at hkept
  have hsource : c.source = s.cast.source := congrArg (·.1) hkept
  have hcallbacks : c.scheduler.callbacks = s.scheduler.callbacks := congrArg (·.2.1) hkept
  have hbrain : (c.brain.closed, c.brain.starts) = (brain.closed, brain.starts) := congrArg (·.2.2) hkept
  have hlook : ((withScene j s c).cast.brains[k]?.map fun b => (b.closed, b.starts)) =
      s.cast.brains[k]?.map fun b => (b.closed, b.starts) := by
    by_cases hk : k = j
    · subst hk
      rw [brains_withScene_self hb, hb]
      exact congrArg some hbrain
    · rw [brains_withScene_ne hk]
  change (c.source, c.scheduler.callbacks, (withScene j s c).cast.brains[k]?.map fun b => (b.closed, b.starts)) = _
  rw [hsource, hcallbacks, hlook]
  rfl

omit [Scalar α] in
theorem leaves_stop (k j : Nat) (number : Option Int) :
    Obeys (leaving (books k)) (onBrain j (Wave.stop number) : Act (Fault α) (BotStage α Empty) Unit) := by
  refine leaves_onBrain (fun c => ?_) k j
  obtain ⟨d, hr, _, _, _, _, -, rfl⟩ := Wave.run_stop number c
  rw [hr]
  rfl

omit [Scalar α] in
theorem leaves_release (k j : Nat) :
    Obeys (leaving (books k)) (onBrain j Walk.release : Act (Fault α) (BotStage α Empty) Unit) := by
  refine leaves_onBrain (fun c => ?_) k j
  rfl

theorem leaves_timerPhase (k : Nat) (delta : α) :
    Obeys (leaving (books k)) (Stage.timerPhase (handlers .absent) 0 delta) := by
  refine obeys_timerPhase ?_ ?_ (fun _ _ _ g => g.elim) fun g => g.elim
  · intro s scheduler h
    obtain ⟨-, rfl⟩ := Scheduler.advance_eq_ok h
    rfl
  · intro s u scheduler j number h _
    obtain ⟨rest, -, -, rfl⟩ := Scheduler.takeDue_eq_some h
    exact leaves_stop k j (some number) { s with scheduler := { s.scheduler with timers := rest } }

omit [Scalar α] in
/-- A brain whose books have been left is still there. -/
theorem look_of_books (hb : s.cast.brains[k]? = some b) (ht : books k t = books k s) :
    ∃ c, t.cast.brains[k]? = some c ∧ c.closed = b.closed ∧ c.starts = b.starts := by
  have hbrain : (t.cast.brains[k]?.map fun b => (b.closed, b.starts)) = some (b.closed, b.starts) := by
    have hlook := congrArg (·.2.2) ht
    simpa [books, hb] using hlook
  obtain ⟨c, hc, heq⟩ := Option.map_eq_some_iff.1 hbrain
  exact ⟨c, hc, congrArg Prod.fst heq, congrArg Prod.snd heq⟩

omit [Scalar α] in
theorem Serves.of_books (h : Serves k s b) (ht : books k t = books k s) :
    ∃ c, Serves k t c ∧ c.starts = b.starts ∧ t.cast.source = s.cast.source := by
  have hsource : t.cast.source = s.cast.source := congrArg (·.1) ht
  have hcallbacks : t.scheduler.callbacks = s.scheduler.callbacks := congrArg (·.2.1) ht
  obtain ⟨c, hc, hclosed, hstarts⟩ := look_of_books h.brain ht
  exact ⟨c, ⟨hc, hclosed.trans h.opened, hcallbacks.trans h.callbacks⟩, hstarts, hsource⟩

omit [Scalar α] in
theorem Serves.withScene (h : Serves k s b) {c : Scene α (Callback Empty) (Alarm Empty)}
    (hcalls : c.scheduler.callbacks = s.scheduler.callbacks) (hclosed : c.brain.closed = b.closed) :
    Serves k (Bot.withScene k s c) c.brain :=
  ⟨brains_withScene_self h.brain c, hclosed.trans h.opened, hcalls.trans h.callbacks⟩

theorem Serves.run_step (h : Serves k s b) {delta : α} {u : Unit} (hr : (step .absent delta).run s = (.ok u, t)) :
    ∃ d e, ((Stage.timerPhase (handlers .absent) 0 delta).run s).2 = d ∧ Serves k d e ∧ e.starts = b.starts ∧
      d.cast.source = s.cast.source ∧ (Bot.onBrain k (Brain.frame (.waveEnd k) delta)).run d = (.ok u, t) := by
  have hkept := leaves_timerPhase k delta s
  rw [step, Stage.step_eq] at hr
  rcases hd : (Stage.timerPhase (handlers .absent) 0 delta).run s with ⟨fault | v, d⟩
  · rw [hd] at hr
    cases hr
  · rw [hd] at hr hkept
    dsimp only at hr
    obtain ⟨e, he, hstarts, hsource⟩ := h.of_books hkept
    refine ⟨d, e, rfl, he, hstarts, hsource, ?_⟩
    rw [he.callbacks, Stage.callAll, Stage.callAll] at hr
    obtain ⟨v, w, hframe, hrest⟩ := run_bind_eq_ok hr
    cases hrest
    exact hframe

theorem Serves.pays_frame (h : Serves k s b) {delta : α} {u : Unit}
    (hr : (Bot.onBrain k (Brain.frame (.waveEnd k) delta)).run s = (.ok u, t)) :
    ∃ c, Serves k t c ∧
      Pays (Brain.tally [(b, c)]) s.cast.source.taken b.starts t.cast.source.taken c.starts := by
  obtain ⟨c, hplay, rfl⟩ := run_onBrain_inv h.brain hr
  have hkept : leaving Scene.badge (scene s b) c := (Brain.leaves_badge _ delta).of_run hplay
  have hcalls : c.scheduler.callbacks = s.scheduler.callbacks := congrArg Scene.Badge.callbacks hkept
  have hclosed : c.brain.closed = b.closed := congrArg Scene.Badge.closed hkept
  have hpays : Scene.Pays (Brain.tally [((scene s b).brain, c.brain)]) (scene s b) c :=
    Brain.pays_frame _ delta h.opened hplay
  exact ⟨c.brain, h.withScene hcalls hclosed, hpays⟩

end Bot

/-! ## Runs -/

namespace Cue

/-- The stage that the brain meets when a frame calls it: the timers of that frame have fired. -/
def entered : Cue α → BotStage α Empty → BotStage α Empty
  | step delta, s => ((Stage.timerPhase (Bot.handlers .absent) 0 delta).run s).2
  | _, s => s

/-- The calls of a brain that are frames, with the brain that enters and the one that leaves. -/
def calls (k : Nat) (cue : Cue α) (s : BotStage α Empty) : List (Brain α × Brain α) :=
  match cue.isFrame, (cue.entered s).cast.brains[k]?, ((cue.act .absent k).run s).2.cast.brains[k]? with
  | true, some b, some c => [(b, c)]
  | _, _, _ => []

/-- Whether a cue lets the brain go on and plays no clip by hand. -/
def isQuiet : Cue α → Bool
  | playSound | close => false
  | _ => true

def isStartWave : Cue α → Bool
  | startWave => true
  | _ => false

/-- Whether a cue takes fractions by hand. -/
def draws : Cue α → Bool
  | startWave | pickTarget | playSound => true
  | _ => false

end Cue

namespace Bot

variable {k : Nat} {s t : BotStage α Empty} {b : Brain α}

def calls (k : Nat) : List (Cue α) → BotStage α Empty → List (Brain α × Brain α)
  | [], _ => []
  | cue :: cues, s => cue.calls k s ++ calls k cues ((cue.act .absent k).run s).2

theorem calls_of_frame {cue : Cue α} {b c : Brain α} (hframe : cue.isFrame = true)
    (hb : (cue.entered s).cast.brains[k]? = some b) (hc : ((cue.act .absent k).run s).2.cast.brains[k]? = some c) :
    cue.calls k s = [(b, c)] := by
  unfold Cue.calls
  rw [hframe, hb, hc]

omit [Scalar α] in
/-- A brain that leaves its books as they are pays nothing. -/
theorem Serves.pays_nothing (h : Serves k s b) (ht : books k t = books k s) :
    ∃ c, Serves k t c ∧ Pays 0 s.cast.source.taken b.starts t.cast.source.taken c.starts := by
  obtain ⟨c, hc, hstarts, hsource⟩ := h.of_books ht
  refine ⟨c, hc, ?_⟩
  rw [hstarts, hsource]
  exact .refl _ _

/-- **What a cue takes.** -/
theorem Serves.pays_cue (h : Serves k s b) {cue : Cue α} (hquiet : cue.isQuiet = true)
    (hanswers : (!cue.isStartWave) = true → ((cue.act .absent k).run s).1 = .ok ()) :
    ∃ c, Serves k ((cue.act .absent k).run s).2 c ∧ (cue.calls k s).length = cue.isFrame.toNat ∧
      Pays (Brain.tally (cue.calls k s)) s.cast.source.taken b.starts
        ((cue.act .absent k).run s).2.cast.source.taken c.starts := by
  cases cue with
  | step delta =>
    obtain ⟨d, e, rfl, he, hstarts, hsource, hr⟩ := h.run_step (Prod.ext (hanswers rfl) rfl)
    obtain ⟨c, hc, hpays⟩ := he.pays_frame hr
    have hcalls : (Cue.step delta).calls k s = [(e, c)] := calls_of_frame rfl he.brain hc.brain
    rw [hcalls]
    rw [hstarts, hsource] at hpays
    exact ⟨c, hc, rfl, hpays⟩
  | update delta =>
    obtain ⟨c, hc, hpays⟩ := h.pays_frame (Prod.ext (hanswers rfl) rfl)
    have hcalls : (Cue.update delta).calls k s = [(b, c)] := calls_of_frame rfl h.brain hc.brain
    rw [hcalls]
    exact ⟨c, hc, rfl, hpays⟩
  | startWave =>
    have hact : Cue.startWave.act .absent k = onBrain k (discard (Wave.start (.waveEnd k)) : Play α _ _ Unit) := rfl
    obtain ⟨hpays, hcalls, hclosed⟩ := Wave.pays_start (.waveEnd k) (scene s b)
    rw [hact, run_onBrain_some _ h.brain]
    exact ⟨_, h.withScene hcalls hclosed, rfl, hpays⟩
  | stopWave number =>
    obtain ⟨c, hc, hpays⟩ := h.pays_nothing (leaves_stop k k number s)
    exact ⟨c, hc, rfl, hpays⟩
  | pickTarget =>
    have hact : Cue.pickTarget.act .absent k = onBrain k (Walk.pickTarget : Play α _ _ Unit) := rfl
    have hanswer := hanswers rfl
    rw [hact, run_onBrain_some _ h.brain] at hanswer ⊢
    obtain ⟨hpays, hcalls, hclosed⟩ := Walk.pays_pickTarget (Prod.ext hanswer rfl)
    exact ⟨_, h.withScene hcalls hclosed, rfl, hpays⟩
  | releaseLegs =>
    obtain ⟨c, hc, hpays⟩ := h.pays_nothing (leaves_release k k s)
    exact ⟨c, hc, rfl, hpays⟩
  | playSound => cases hquiet
  | close => cases hquiet

theorem Serves.pays : ∀ {cues : List (Cue α)} {s : BotStage α Empty} {b : Brain α}, Serves k s b →
    (∀ cue ∈ cues, cue.isQuiet = true) → Smooth .absent k (fun cue => !cue.isStartWave) cues s →
    ∃ c, Serves k (after .absent k cues s) c ∧ (calls k cues s).length = cues.countP Cue.isFrame ∧
      Pays (Brain.tally (calls k cues s)) s.cast.source.taken b.starts (after .absent k cues s).cast.source.taken c.starts
  | [], s, b, h, _, _ => ⟨b, h, rfl, .refl _ _⟩
  | cue :: cues, s, b, h, hquiet, hsmooth => by
    obtain ⟨hfirst, hrest⟩ := List.forall_mem_cons.1 hquiet
    obtain ⟨hanswers, hafter⟩ := List.forall_mem_cons.1 hsmooth
    obtain ⟨c, hc, hlength, hpays⟩ := h.pays_cue hfirst hanswers
    obtain ⟨d, hd, hlengths, hpays'⟩ := Serves.pays hc hrest hafter
    refine ⟨d, hd, ?_, ?_⟩
    · unfold calls
      rw [List.length_append, hlength, hlengths, List.countP_cons, Nat.add_comm]
      cases cue.isFrame <;> rfl
    · unfold calls
      rw [Brain.tally_append]
      exact hpays.trans hpays'

omit [Scalar α] in
theorem Stopped.of_books (h : Stopped k s) (ht : books k t = books k s) : Stopped k t := by
  obtain ⟨b, hb, hclosed⟩ := h
  obtain ⟨c, hc, hkept, -⟩ := look_of_books hb ht
  exact ⟨c, hc, hkept.trans hclosed⟩

theorem books_step (hstopped : Stopped k s) (hcalls : s.scheduler.callbacks = [.brain k]) (delta : α) :
    books k ((step .absent delta).run s).2 = books k s := by
  have hkept : books k _ = books k s := leaves_timerPhase k delta s
  rw [step, Stage.step_eq]
  rcases ht : (Stage.timerPhase (handlers .absent) 0 delta).run s with ⟨fault | u, t⟩
  · rw [ht] at hkept
    exact hkept
  · rw [ht] at hkept
    have hcalls' : t.scheduler.callbacks = [.brain k] := (congrArg (·.2.1) hkept).trans hcalls
    have hframe : ((handlers .absent).onFrame (.brain k) delta).run t = (.ok (), t) :=
      run_onBrain_stopped (frame_closed k delta) (hstopped.of_books hkept)
    dsimp only
    rw [hcalls', Stage.callAll, run_bind, hframe]
    exact hkept

/-- **A closed brain draws nothing** unless it is told to by hand. -/
theorem books_after : ∀ {cues : List (Cue α)} {s : BotStage α Empty}, Stopped k s →
    s.scheduler.callbacks = [.brain k] → (∀ cue ∈ cues, cue.draws = false) →
    books k (after .absent k cues s) = books k s
  | [], s, _, _, _ => rfl
  | cue :: cues, s, hstopped, hcalls, hdraws => by
    obtain ⟨hfirst, hrest⟩ := List.forall_mem_cons.1 hdraws
    have hcue : books k ((cue.act .absent k).run s).2 = books k s := by
      cases cue with
      | step delta => exact books_step hstopped hcalls delta
      | update delta =>
        have hframe := run_onBrain_stopped (frame_closed k delta) hstopped
        exact congrArg (fun r => books k r.2) hframe
      | startWave => cases hfirst
      | stopWave number => exact leaves_stop k k number s
      | pickTarget => cases hfirst
      | releaseLegs => exact leaves_release k k s
      | playSound => cases hfirst
      | close =>
        have hclose := run_onBrain_stopped close_closed hstopped
        exact congrArg (fun r => books k r.2) hclose
    have hcalls' : ((cue.act .absent k).run s).2.scheduler.callbacks = [.brain k] :=
      (congrArg (·.2.1) hcue).trans hcalls
    exact (books_after (hstopped.of_books hcue) hcalls' hrest).trans hcue

/-- **Every draw is accounted for.**  A run of a brain that is open, with any settings, draws, deltas and timers, takes
one fraction for each frame, one for each frame that finds the arm, the head or the legs at rest, one for each glance
and each clip, and three for each wave and each walk; no frame fails in it, nor does a walk by hand, and no clip is
played by hand.  The frames of a closed brain take none. -/
theorem draws_accounted_for (hbrain : s.cast.brains[k]? = some b) (hcalls : s.scheduler.callbacks = [.brain k])
    (cues : List (Cue α)) :
    (b.closed = false → (∀ cue ∈ cues, cue.isQuiet = true) → Smooth .absent k (fun cue => !cue.isStartWave) cues s →
      ∃ c waves clips walks, (after .absent k cues s).cast.brains[k]? = some c ∧
        c.state.waveCount = b.state.waveCount + waves ∧ c.sounds = b.sounds + clips ∧ c.walks = b.walks + walks ∧
        (calls k cues s).length = cues.countP Cue.isFrame ∧
        (after .absent k cues s).cast.source.taken = s.cast.source.taken +
          (cues.countP Cue.isFrame + (calls k cues s).countP (fun f => f.1.state.wave == .idle) + 3 * waves + clips +
            (calls k cues s).countP (fun f => f.1.state.head == .idle) +
            (calls k cues s).countP (fun f => f.1.state.head == .idle && f.2.state.head == .turning) +
            (calls k cues s).countP (fun f => f.1.state.walk == .idle) + 3 * walks)) ∧
      (b.closed = true → (∀ cue ∈ cues, cue.draws = false) →
        (after .absent k cues s).cast.source = s.cast.source) := by
  refine ⟨fun hopen hquiet hsmooth => ?_, fun hclosed hdraws => ?_⟩
  · have hserves : Serves k s b := ⟨hbrain, hopen, hcalls⟩
    obtain ⟨c, hc, hlength, hpays⟩ := hserves.pays hquiet hsmooth
    obtain ⟨waves, hwaves⟩ := Nat.exists_eq_add_of_le hpays.waves
    obtain ⟨clips, hclips⟩ := Nat.exists_eq_add_of_le hpays.clips
    obtain ⟨walks, hwalks⟩ := Nat.exists_eq_add_of_le hpays.walks
    refine ⟨c, waves, clips, walks, hc.brain, hwaves, hclips, hwalks, hlength, ?_⟩
    have hdraws := hpays.draws
    unfold Brain.tally Starts.spent at hdraws
    omega
  · exact congrArg Prod.fst (books_after ⟨b, hbrain, hclosed⟩ hcalls hdraws)

/-- A bot that waves at once, with all fractions one half, and the same bot when it has been closed. -/
theorem draws_accounted_for_waving :
    let settings : Settings Float := { Settings.standard with wave := { WaveSettings.standard with chance := 1.0 } }
    let config : BotConfig Float := { BotConfig.standard with assets := ⟨"assets", some 7⟩, settings }
    let first := ((start config).run (waiting (.scripted [] 0.5) : BotStage Float Empty)).2
    let closed := ((onBrain 0 Brain.close).run first).2
    let cues : List (Cue Float) := [.step 0.5, .update 0.5, .stopWave none, .startWave, .step 3.0]
    (∃ c waves clips walks, (after .absent 0 cues first).cast.brains[0]? = some c ∧ c.state.waveCount = waves ∧
      c.sounds = clips ∧ c.walks = walks ∧ (after .absent 0 cues first).cast.source.taken = first.cast.source.taken +
        (3 + (calls 0 cues first).countP (fun f => f.1.state.wave == .idle) + 3 * waves + clips +
          (calls 0 cues first).countP (fun f => f.1.state.head == .idle) +
          (calls 0 cues first).countP (fun f => f.1.state.head == .idle && f.2.state.head == .turning) +
          (calls 0 cues first).countP (fun f => f.1.state.walk == .idle) + 3 * walks)) ∧
      (after .absent 0 [.step 0.5, .update 0.5] closed).cast.source = closed.cast.source := by
  intro settings config first closed cues
  have hopen := (draws_accounted_for (s := first) (k := 0) rfl rfl cues).1 rfl (by decide) (by decide +kernel)
  have hclosed := (draws_accounted_for (s := closed) (k := 0) rfl rfl [.step 0.5, .update 0.5]).2 rfl (by decide)
  obtain ⟨c, waves, clips, walks, hc, hwaves, hclips, hwalks, -, hdraws⟩ := hopen
  refine ⟨⟨c, waves, clips, walks, hc, ?_, ?_, ?_, hdraws⟩, hclosed⟩
  · exact hwaves.trans (Nat.zero_add waves)
  · exact hclips.trans (Nat.zero_add clips)
  · exact hwalks.trans (Nat.zero_add walks)

end Bot
end Bystander
