import Bystander.Proofs.Company
import Bystander.Proofs.Outcomes
import Bystander.Proofs.Ticking
/-! # The airtime of clips

One voice serves all the brains that a bot has had, and it is busy for the length of each clip.  Frames, calls by hand
and starts of the bot come in any order, and several of them may fall on one clock.  The log of a stage has each clip
that a call has played, with the clock of that call (`Bot.Airs`).  Whatever a bot lives through is so logged
(`Bot.Programme.airs`), and no clip of the log begins before the one before it has ended.
-/
namespace Bystander

open Float.Model (UnpackedFloat)
open Float.Model.UnpackedFloat
open Act (Obeys run_bind)
open Scalar (Defined Elapses)

variable {α κ τ γ : Type} [Scalar α]

/-! ## Numbers that a voice goes by -/

/-- A clip with a length that can be waited for, be it finite or not. -/
def Clip.Lasts (clip : Clip α) : Prop := Defined clip.duration ∧ ¬ clip.duration < 0.0

/-- **The laws of a voice**, beside those of the clock that it goes by. -/
class Voicing (α : Type) [Scalar α] : Prop extends Ticking α where
  seconds {d : α} : Defined d → ¬ d < 0.0 → Defined (d / 1000.0) ∧ ¬ d / 1000.0 < 0.0
  /-- A share of a count, from none of it to the whole, is a number that can be cut to an integer.  No library is so
  long that its length takes more than 63 bits. -/
  share {r : α} {n : Nat} : 0.0 ≤ r → r ≤ 1.0 → n < 2 ^ 63 → Scalar.isFinite (r * Scalar.ofNat n) = true
  usual : Defined (Clip.usualDuration : α) ∧ ¬ (Clip.usualDuration : α) < 0.0

theorem Double.ample_thousandth {d : Float} (h : Ample (reading d)) : Ample (reading (d / 1000.0)) := by
  have hquotient : reading (d / 1000.0) = (Float.Model.pack (UnpackedFloat.div .binary64 (reading d)
      (.finite .positive 8796093022208000 (-43) (by decide)))).unpack := rfl
  have hamount : Amount (reading d) → Ample (reading (d / 1000.0)) := fun hd =>
    (amount_thousandth (proper_reading d) hd).imp_right .inl
  rcases h with hzero | hfinite | hinfinite
  · exact hamount (.inl hzero)
  · exact hamount (.inr hfinite)
  · rw [hquotient, hinfinite]
    exact .inr (.inr (unpack_pack_infinity .positive))

open Double in
instance : Voicing Float where
  seconds hd hd' := (ample_iff _).2 (ample_thousandth ((ample_iff _).1 ⟨hd, hd'⟩))
  share hlow hhigh hn := isFinite_share ⟨hlow, hhigh⟩ hn
  usual := ⟨by decide, by decide⟩

noncomputable instance : Voicing ℝ where
  seconds {d} _ hd := by
    refine ⟨Scalar.defined_real _, ?_⟩
    rw [Scalar.zero_literal, not_lt] at hd ⊢
    positivity
  share _ _ _ := rfl
  usual := by
    refine ⟨Scalar.defined_real _, ?_⟩
    change ¬ (8000.0 : ℝ) < 0.0
    norm_num

namespace Chatter

/-- **Every fraction picks a place**, the whole included. -/
theorem place_of_share [Voicing α] {r : α} {count : Nat} (hlow : 0.0 ≤ r) (hhigh : r ≤ 1.0) (hcount : count < 2 ^ 63) :
    ∃ index, place r count = .ok index := by
  unfold place Scalar.integral
  rw [if_pos (Voicing.share hlow hhigh hcount)]
  exact ⟨_, rfl⟩

/-- **A call while the voice is busy or the library empty** does nothing at all. -/
theorem run_play_idle {s : Scene α κ τ} (h : s.audio.isPlaying s.scheduler.now = true ∨ s.brain.clips = []) :
    play.run s = (.ok none, s) := by
  obtain ⟨-, hr⟩ | ⟨hfree, hclips, -⟩ := play_cases s
  · exact hr
  · rw [hfree] at h
    exact absurd h (by simp [hclips])

/-- **A call while the voice is free** plays the clip of the place that is picked. -/
theorem run_play_free [Voicing α] {s : Scene α κ τ} (hfree : s.audio.isPlaying s.scheduler.now = false)
    (hclips : s.brain.clips ≠ []) (hcount : s.brain.clips.length < 2 ^ 63) (hlow : 0.0 ≤ s.source.draw.1)
    (hhigh : s.source.draw.1 ≤ 1.0) :
    ∃ index clip, s.brain.clips[index]? = some clip ∧ play.run s = (.ok (some index), heard index clip s.drawn) := by
  obtain ⟨hidle, -⟩ | ⟨-, -, ⟨fault, hp, -⟩ | ⟨index, clip, -, hclip, hr⟩⟩ := play_cases s
  · rw [hfree] at hidle
    exact absurd hidle (by simp [hclips])
  · obtain ⟨index, hplace⟩ := place_of_share hlow hhigh hcount
    rw [hplace] at hp
    cases hp
  · exact ⟨index, clip, hclip, hr⟩

end Chatter

/-! ## Who touches the voice -/

/-- The voice, the clock that it goes by, and the library that is played from. -/
def Scene.voice (s : Scene α κ τ) : Audio α × α × List (Clip α) := (s.audio, s.scheduler.now, s.brain.clips)

theorem Brain.voice_begin (delta : α) (s : Scene α κ τ) : (begin delta s).voice = s.voice := rfl

theorem View.leaves_voice : Obeys (leaving Scene.voice) (View.frame : Play α κ τ Bool) :=
  View.obeys_frame.imp fun s t h => by
    obtain ⟨_, _, _, -, rfl⟩ := h
    rfl

theorem Wave.leaves_voice (ending : Nat → τ) : Obeys (leaving Scene.voice) (Wave.frame ending : Play α κ τ Unit) := by
  intro s
  obtain ⟨-, hr | ⟨scheduler, hset, hr⟩ | ⟨fault, -, hr⟩⟩ | ⟨-, result, joints, hr⟩ := Wave.frame_cases ending s
  · rw [hr]
    rfl
  · obtain ⟨-, rfl⟩ := Scheduler.setTimeout_eq_ok hset
    rw [hr]
    rfl
  · rw [hr]
    rfl
  · rw [hr]
    rfl

omit [Scalar α] in
theorem Wave.leaves_voice_stop (number : Option Int) :
    Obeys (leaving Scene.voice) (Wave.stop number : Play α κ τ Unit) := by
  intro s
  obtain ⟨-, hr⟩ | ⟨-, ⟨-, n, -, hr⟩ | ⟨-, hr⟩⟩ := stop_cases number s
  · rw [hr]
    rfl
  · rw [hr]
    rfl
  · rw [hr]
    unfold ended
    split <;> rfl

theorem Head.leaves_voice : Obeys (leaving Scene.voice) (Head.frame : Play α κ τ Unit) :=
  Head.obeys_frame.imp fun s t h => by
    obtain ⟨_, _, _, _, _, -, rfl⟩ := h
    rfl

theorem Walk.leaves_voice : Obeys (leaving Scene.voice) (Walk.frame : Play α κ τ Unit) :=
  Walk.obeys_frame.imp fun s t h => by
    obtain ⟨_, _, _, _, _, _, _, _, _, _, _, -, rfl⟩ := h
    rfl

omit [Scalar α] in
theorem Brain.leaves_voice_close : Obeys (leaving Scene.voice) (Brain.close : Play α κ τ Unit) :=
  obeys_close fun _ _ _ => rfl

/-! ## The log of a stage -/

/-- A clip that was played: the clock of the call, the place that it answered, and the clip. -/
structure Airing (α : Type) where
  since : α
  index : Nat
  clip : Clip α

def Airing.ends (a : Airing α) : α := a.since + a.clip.duration / 1000.0

namespace Bot

def libraries (s : BotStage α γ) : List (List (Clip α)) := s.cast.brains.map Brain.clips

/-- What concerns neither the voice nor its clock and opens no library but of clips that last. -/
structure Quiet (s t : BotStage α γ) : Prop where
  audio : t.audio = s.audio
  clock : t.scheduler.now = s.scheduler.now
  libraries : ∀ library ∈ libraries t, library ∈ libraries s ∨ ∀ clip ∈ library, clip.Lasts

/-- **The log of a stage**, the latest clip first: each call that answers a place is in it, with its clock; the clock
goes on by itself, and nothing else changes the voice. -/
inductive Airs (s : BotStage α γ) : List (Airing α) → BotStage α γ → Prop
  | start : Airs s [] s
  | quiet {airings : List (Airing α)} {t u : BotStage α γ} : Airs s airings t → Quiet t u → Airs s airings u
  | clock {airings : List (Airing α)} {t : BotStage α γ} {delta : α}
    {scheduler : Scheduler α (Callback γ) (Alarm γ)} : Airs s airings t → Elapses delta →
    t.scheduler.advance delta = .ok scheduler → Airs s airings { t with scheduler }
  | play {airings : List (Airing α)} {t u : BotStage α γ} {k index : Nat} {brain : Brain α} {clip : Clip α} :
    Airs s airings t → t.cast.brains[k]? = some brain → (onBrain k Chatter.play).run t = (.ok (some index), u) →
    brain.clips[index]? = some clip → Airs s (⟨t.scheduler.now, index, clip⟩ :: airings) u

theorem Airs.trans {s t u : BotStage α γ} {airings new : List (Airing α)} (h : Airs s airings t) (h' : Airs t new u) :
    Airs s (new ++ airings) u := by
  induction h' with
  | start => exact h
  | quiet _ hquiet ih => exact ih.quiet hquiet
  | clock _ hd hs ih => exact ih.clock hd hs
  | play _ hbrain hr hclip ih => exact ih.play hbrain hr hclip

def Broadcasts (s t : BotStage α γ) : Prop := ∃ airings, Airs s airings t

instance : Steady (Broadcasts (α := α) (γ := γ)) where
  refl s := ⟨[], .start⟩
  trans h h' := by
    obtain ⟨airings, h⟩ := h
    obtain ⟨new, h'⟩ := h'
    exact ⟨_, h.trans h'⟩

theorem Quiet.broadcasts {s t : BotStage α γ} (h : Quiet s t) : Broadcasts s t := ⟨[], Airs.start.quiet h⟩

theorem broadcasts_of_eq {s t : BotStage α γ} (haudio : t.audio = s.audio) (hclock : t.scheduler.now = s.scheduler.now)
    (hlibraries : libraries t = libraries s) : Broadcasts s t :=
  Quiet.broadcasts ⟨haudio, hclock, fun _ hl => .inl (hlibraries ▸ hl)⟩

/-! ## What brains add to the log -/

omit [Scalar α] in
theorem withScene_withScene (k : Nat) (s : BotStage α γ) (c d : Scene α (Callback γ) (Alarm γ)) :
    withScene k (withScene k s c) d = withScene k s d := by
  unfold withScene
  rw [List.set_set]

omit [Scalar α] in
theorem libraries_withScene (k : Nat) (s : BotStage α γ) (c : Scene α (Callback γ) (Alarm γ)) :
    libraries (withScene k s c) = (libraries s).set k c.brain.clips := List.map_set

theorem quiet_withScene {k : Nat} {s : BotStage α γ} {c d : Scene α (Callback γ) (Alarm γ)} (h : d.voice = c.voice) :
    Quiet (withScene k s c) (withScene k s d) := by
  obtain ⟨haudio, hrest⟩ := Prod.mk.inj h
  obtain ⟨hclock, hclips⟩ := Prod.mk.inj hrest
  refine ⟨haudio, hclock, fun library hl => .inl ?_⟩
  rw [libraries_withScene] at hl ⊢
  rwa [← hclips]

theorem broadcasts_onBrain {β : Type} {k : Nat} {play : Play α (Callback γ) (Alarm γ) β}
    (h : Obeys (leaving Scene.voice) play) : Obeys Broadcasts (onBrain k play) := by
  refine obeys_onBrain fun s brain hb => Quiet.broadcasts ?_
  have hquiet := quiet_withScene (k := k) (s := s) (h (scene s brain))
  rwa [withScene_scene hb] at hquiet

/-- **A call by hand** is logged if it answers a place, and leaves the voice alone if not. -/
theorem broadcasts_play (k : Nat) :
    Obeys Broadcasts (onBrain k Chatter.play : Act (Fault α) (BotStage α γ) (Option Nat)) := by
  intro t
  cases hb : t.cast.brains[k]? with
  | none =>
    rw [run_onBrain_none _ hb]
    exact Steady.refl t
  | some brain =>
    have hquiet : ∀ c : Scene α (Callback γ) (Alarm γ), c.voice = (scene t brain).voice →
        Broadcasts t (withScene k t c) := by
      intro c hc
      have hsame := quiet_withScene (k := k) (s := t) hc
      rw [withScene_scene hb] at hsame
      exact hsame.broadcasts
    have hr := run_onBrain_some Chatter.play hb
    obtain ⟨-, hplay⟩ | ⟨-, -, ⟨fault, -, hplay⟩ | ⟨index, clip, -, hclip, hplay⟩⟩ := Chatter.play_cases (scene t brain)
    · rw [hr, hplay]
      exact hquiet _ rfl
    · rw [hr, hplay]
      exact hquiet _ rfl
    · rw [hplay] at hr
      rw [hr]
      exact ⟨_, Airs.start.play hb hr hclip⟩

/-- What a brain at a place adds to the log between two scenes. -/
def Sounds (k : Nat) (s : BotStage α γ) (c d : Scene α (Callback γ) (Alarm γ)) : Prop :=
  Broadcasts (withScene k s c) (withScene k s d)

instance (k : Nat) (s : BotStage α γ) : Steady (Sounds k s) where
  refl c := Steady.refl (withScene k s c)
  trans h h' := Steady.trans (R := Broadcasts) h h'

theorem sounds_of_voice {k : Nat} {s : BotStage α γ} (c d : Scene α (Callback γ) (Alarm γ))
    (h : leaving Scene.voice c d) : Sounds k s c d := (quiet_withScene h).broadcasts

theorem sounds_play {k : Nat} {s : BotStage α γ} (hk : k < s.cast.brains.length) :
    Obeys (Sounds k s) Chatter.play := by
  intro c
  have hb : (withScene k s c).cast.brains[k]? = some c.brain := List.getElem?_set_self hk
  have hplay : Broadcasts (withScene k s c) ((onBrain k Chatter.play).run (withScene k s c)).2 :=
    broadcasts_play k (withScene k s c)
  rw [run_onBrain_some _ hb] at hplay
  dsimp only at hplay
  rw [withScene_withScene] at hplay
  exact hplay

theorem sounds_frame {k : Nat} {s : BotStage α γ} (hk : k < s.cast.brains.length) :
    Obeys (Sounds k s) Chatter.frame := by
  intro c
  have hdrawn : Sounds k s c c.drawn := sounds_of_voice _ _ rfl
  rw [Chatter.run_frame]
  split
  · exact Steady.trans hdrawn (sounds_play hk c.drawn)
  · exact hdrawn

/-- **A frame of a brain** makes one call at most, on the clock of the frame. -/
theorem broadcasts_frame (k : Nat) (delta : α) : Obeys Broadcasts
    (onBrain k (Brain.frame (.waveEnd k) delta) : Act (Fault α) (BotStage α γ) Unit) := by
  refine obeys_onBrain fun s brain hb => ?_
  obtain ⟨hk, -⟩ := List.getElem?_eq_some_iff.1 hb
  have hframe : Sounds k s (scene s brain) ((Brain.frame (.waveEnd k) delta).run (scene s brain)).2 := by
    cases hclosed : brain.closed with
    | true =>
      rw [Brain.run_frame_closed _ delta hclosed]
      exact Steady.refl (scene s brain)
    | false =>
      have hbehave : Obeys (Sounds k s) (Brain.behave (.waveEnd k)) :=
        ((View.leaves_voice.imp sounds_of_voice).map _).bind fun _ =>
          ((Wave.leaves_voice _).imp sounds_of_voice).bind fun _ => ((sounds_frame hk).map _).bind fun _ =>
            (Head.leaves_voice.imp sounds_of_voice).bind fun _ => Walk.leaves_voice.imp sounds_of_voice
      rw [Brain.run_frame_open _ delta hclosed]
      exact Steady.trans (sounds_of_voice _ _ (Brain.voice_begin delta (scene s brain))) (hbehave _)
  unfold Sounds at hframe
  rwa [withScene_scene hb] at hframe

theorem broadcasts_step {guests : Guests α γ} {delta : α} (hd : Elapses delta)
    (htimers : ∀ g, Obeys Broadcasts (guests.onTimer g)) (hframes : ∀ g, Obeys Broadcasts (guests.onFrame g delta)) :
    Obeys Broadcasts (step guests delta) := by
  have htaken : ∀ (s : BotStage α γ) t scheduler, s.scheduler.takeDue = some (t, scheduler) →
      Broadcasts s { s with scheduler } := by
    intro s t scheduler hdue
    obtain ⟨rest, -, -, rfl⟩ := Scheduler.takeDue_eq_some hdue
    exact broadcasts_of_eq rfl rfl rfl
  refine obeys_step (fun s scheduler hs => ⟨[], Airs.start.clock hd hs⟩) (fun s t scheduler serial number hdue _ => ?_)
    (fun s t scheduler _ hdue _ => htaken s t scheduler hdue) htimers (fun k => broadcasts_frame k delta) hframes
  exact Steady.trans (htaken s t scheduler hdue)
    (broadcasts_onBrain (Wave.leaves_voice_stop _) { s with scheduler })

section Sessions

variable [DecidableEq γ]

theorem broadcasts_start [Voicing α] (config : BotConfig α) :
    Obeys Broadcasts (start config : Act (Fault α) (BotStage α γ) Bool) := by
  refine obeys_start (fun _ _ => broadcasts_of_eq rfl rfl rfl) (fun _ _ _ => broadcasts_of_eq rfl rfl rfl)
    fun s appearance journal => Quiet.broadcasts ?_
  refine ⟨rfl, Scheduler.now_connect _, fun library hl => ?_⟩
  change library ∈ (s.cast.brains ++ [_]).map Brain.clips at hl
  rw [List.map_append, List.mem_append] at hl
  refine hl.imp_right fun hnew clip hclip => ?_
  rw [List.mem_singleton.1 hnew] at hclip
  obtain ⟨url, -, rfl⟩ := List.mem_map.1 hclip
  exact Voicing.usual

theorem broadcasts_stop : Obeys Broadcasts (stop : Act (Fault α) (BotStage α γ) Unit) :=
  obeys_stop (fun _ _ => broadcasts_of_eq rfl rfl rfl) (fun _ => broadcasts_onBrain Brain.leaves_voice_close)
    fun _ _ => broadcasts_of_eq rfl rfl rfl

/-- **What a bot with a voice lives through**: starts, stops, frames of the stage with guests who do no other things,
updates of one brain and calls by hand, in any order. -/
inductive Programme : BotStage α γ → BotStage α γ → Prop
  | refl (s : BotStage α γ) : Programme s s
  | trans {s t u : BotStage α γ} : Programme s t → Programme t u → Programme s u
  | quiet {s t : BotStage α γ} : Quiet s t → Programme s t
  | start (config : BotConfig α) (s : BotStage α γ) : Programme s ((start config).run s).2
  | stop (s : BotStage α γ) : Programme s (stop.run s).2
  | update (k : Nat) (delta : α) (s : BotStage α γ) :
    Programme s ((onBrain k (Brain.frame (.waveEnd k) delta)).run s).2
  | play (k : Nat) (s : BotStage α γ) : Programme s ((onBrain k Chatter.play).run s).2
  | frame (guests : Guests α γ) (delta : α) : Elapses delta → (∀ g s, Programme s ((guests.onTimer g).run s).2) →
    (∀ g s, Programme s ((guests.onFrame g delta).run s).2) → ∀ s, Programme s ((step guests delta).run s).2

/-- **All of it is logged.** -/
theorem Programme.airs [Voicing α] {s t : BotStage α γ} (h : Programme s t) : Broadcasts s t := by
  induction h with
  | refl s => exact Steady.refl s
  | trans _ _ ih ih' => exact Steady.trans ih ih'
  | quiet h => exact h.broadcasts
  | start config s => exact broadcasts_start config s
  | stop s => exact broadcasts_stop s
  | update k delta s => exact broadcasts_frame k delta s
  | play k s => exact broadcasts_play k s
  | frame guests delta hd _ _ s htimers hframes => exact broadcasts_step hd htimers hframes s

end Sessions

/-! ## No clip begins before the one before it has ended -/

/-- **How a stage stands to its log**: the voice is busy until the latest clip ends, the clock is no earlier than any
call, and no clip begins before those before it have ended. -/
structure OnAir (s : BotStage α γ) (airings : List (Airing α)) : Prop where
  clock : Defined s.scheduler.now ∧ ¬ s.scheduler.now < 0.0
  stock : ∀ library ∈ libraries s, ∀ clip ∈ library, clip.Lasts
  played : s.audio.latestFirst = airings.map Airing.clip
  busy : s.audio.busyUntil = (airings.head?.map Airing.ends).getD 0.0
  lasting : ∀ a ∈ airings, Defined a.ends ∧ a.since ≤ a.ends
  apart : airings.Pairwise fun later earlier => earlier.ends ≤ later.since

namespace OnAir

variable {s t : BotStage α γ} {airings : List (Airing α)}

theorem quiet (h : OnAir s airings) (hquiet : Quiet s t) : OnAir t airings where
  clock := by
    rw [hquiet.clock]
    exact h.clock
  stock library hl := (hquiet.libraries library hl).elim (h.stock library) id
  played := hquiet.audio ▸ h.played
  busy := hquiet.audio ▸ h.busy
  lasting := h.lasting
  apart := h.apart

variable [Voicing α]

theorem tick (h : OnAir s airings) {delta : α} (hd : Elapses delta) {scheduler : Scheduler α (Callback γ) (Alarm γ)}
    (hs : s.scheduler.advance delta = .ok scheduler) : OnAir { s with scheduler } airings := by
  obtain ⟨-, rfl⟩ := Scheduler.advance_eq_ok hs
  obtain ⟨hnow, hstarted⟩ := h.clock
  have hlater := Timekeeping.defined_add hnow hd
  refine ⟨⟨hlater, ?_⟩, h.stock, h.played, h.busy, h.lasting, h.apart⟩
  exact Timekeeping.not_negative_of_le hnow hstarted hlater (Timekeeping.le_add hnow hd)

/-- **While the voice is free all clips have ended.** -/
theorem ends_le (h : OnAir s airings) (hfree : s.audio.isPlaying s.scheduler.now = false) :
    ∀ a ∈ airings, a.ends ≤ s.scheduler.now := by
  cases airings with
  | nil => exact fun a ha => by cases ha
  | cons latest earlier =>
    obtain ⟨hends, hlasts⟩ := h.lasting latest List.mem_cons_self
    have hbusy : s.audio.busyUntil = latest.ends := h.busy
    have hover : latest.ends ≤ s.scheduler.now := by
      refine Timekeeping.le_of_not_lt h.clock.1 hends fun hlt => ?_
      rw [← hbusy] at hlt
      rw [Audio.isPlaying, decide_eq_false_iff_not] at hfree
      exact hfree hlt
    -- the clips before the latest one ended before it began
    intro a ha
    rcases List.mem_cons.1 ha with rfl | hold
    · exact hover
    · have hbefore := List.rel_of_pairwise_cons h.apart hold
      exact Timekeeping.le_trans hbefore (Timekeeping.le_trans hlasts hover)

/-- **A call that answers a place** begins a clip while the voice is free. -/
theorem play (h : OnAir s airings) {k index : Nat} {brain : Brain α} {clip : Clip α}
    (hb : s.cast.brains[k]? = some brain) (hr : (onBrain k Chatter.play).run s = (.ok (some index), t))
    (hclip : brain.clips[index]? = some clip) : OnAir t (⟨s.scheduler.now, index, clip⟩ :: airings) := by
  obtain ⟨c, hplay, rfl⟩ := run_onBrain_inv hb hr
  obtain ⟨-, hidle⟩ | ⟨hfree, -, ⟨fault, -, hfault⟩ | ⟨place, other, -, hother, hheard⟩⟩ :=
    Chatter.play_cases (scene s brain)
  · rw [hidle] at hplay
    cases hplay
  · rw [hfault] at hplay
    cases hplay
  · rw [hheard] at hplay
    cases hplay
    obtain rfl : clip = other := Option.some.inj (hclip.symm.trans hother)
    obtain ⟨hnow, hstarted⟩ := h.clock
    have hlasts : clip.Lasts :=
      h.stock _ (List.mem_map_of_mem (List.mem_of_getElem? hb)) clip (List.mem_of_getElem? hclip)
    obtain ⟨hseconds, hforward⟩ := Voicing.seconds hlasts.1 hlasts.2
    have hsame : libraries (withScene k s (Chatter.heard index clip (scene s brain).drawn)) = libraries s := by
      have hlibrary : (libraries s)[k]? = some brain.clips := by
        rw [libraries, List.getElem?_map, hb]
        rfl
      obtain ⟨hlt, heq⟩ := List.getElem?_eq_some_iff.1 hlibrary
      rw [libraries_withScene]
      exact heq ▸ List.set_getElem_self hlt
    refine ⟨h.clock, hsame ▸ h.stock, congrArg (clip :: ·) h.played, rfl, ?_,
      List.Pairwise.cons (h.ends_le hfree) h.apart⟩
    exact List.forall_mem_cons.2 ⟨Ticking.tick hnow hstarted hseconds hforward, h.lasting⟩

/-- **The log keeps its rules.** -/
theorem airs (h : OnAir s airings) {new : List (Airing α)} (ht : Airs s new t) : OnAir t (new ++ airings) := by
  induction ht with
  | start => exact h
  | quiet _ hquiet ih => exact ih.quiet hquiet
  | clock _ hd hs ih => exact ih.tick hd hs
  | play _ hb hr hclip ih => exact ih.play hb hr hclip

end OnAir

/-- **Clips never overlap.**  Whatever a bot lives through on a host whose voice is fresh is logged, and however it came
to be, in its log no clip begins before one that was played earlier has ended, and the clips are those of the player in
their order.  A call while the voice is busy or the library empty answers nothing, takes no fraction and changes
nothing; any other call whose fraction is from zero to one, both included, answers a place of the library, plays the
clip of that place and counts it. -/
theorem clips_never_overlap [Voicing α] [DecidableEq γ] {s t : BotStage α γ} (hvoice : s.audio = .fresh)
    (hclock : Defined s.scheduler.now ∧ ¬ s.scheduler.now < 0.0)
    (hclips : ∀ library ∈ libraries s, ∀ clip ∈ library, clip.Lasts) (h : Programme s t) :
    (∃ airings, Airs s airings t) ∧
    (∀ airings, Airs s airings t → (airings.Pairwise fun later earlier => earlier.ends ≤ later.since) ∧
      t.audio.played = (airings.map Airing.clip).reverse) ∧
    ∀ {κ τ : Type} (c : Scene α κ τ),
      (c.audio.isPlaying c.scheduler.now = true ∨ c.brain.clips = [] → Chatter.play.run c = (.ok none, c)) ∧
      (c.audio.isPlaying c.scheduler.now = false → c.brain.clips ≠ [] → c.brain.clips.length < 2 ^ 63 →
        0.0 ≤ c.source.draw.1 → c.source.draw.1 ≤ 1.0 → ∃ index clip d, index < c.brain.clips.length ∧
          c.brain.clips[index]? = some clip ∧ Chatter.play.run c = (.ok (some index), d) ∧
          d.audio.played = c.audio.played ++ [clip] ∧ d.brain.sounds = c.brain.sounds + 1) := by
  refine ⟨h.airs, fun airings hairs => ?_, fun c => ⟨Chatter.run_play_idle, fun hfree hfilled hcount hlow hhigh => ?_⟩⟩
  · have hfresh : OnAir s [] := by
      refine ⟨hclock, hclips, ?_, ?_, List.forall_mem_nil _, List.Pairwise.nil⟩
      · rw [hvoice]
        rfl
      · rw [hvoice]
        rfl
    have hair := hfresh.airs hairs
    rw [List.append_nil] at hair
    refine ⟨hair.apart, ?_⟩
    rw [Audio.played, hair.played]
  · obtain ⟨index, clip, hclip, hr⟩ := Chatter.run_play_free hfree hfilled hcount hlow hhigh
    obtain ⟨hindex, -⟩ := List.getElem?_eq_some_iff.1 hclip
    exact ⟨index, clip, _, hindex, hclip, hr, List.reverse_cons, rfl⟩

/-- Half a second after its start a bot plays a clip of eight seconds, a call by hand comes too early, and nine seconds
later it plays another one. -/
theorem clips_never_overlap_eager :
    let config : BotConfig Float :=
      { BotConfig.standard with assets := ⟨"assets", some 7⟩, settings := { Settings.standard with sound := ⟨1.0⟩ } }
    let s : BotStage Float Empty := waiting (.scripted [] 0.5)
    let early := ((onBrain 0 Chatter.play).run ((step .absent 0.5).run ((start config).run s).2).2).2
    let t := ((step .absent 9.0).run early).2
    ∃ earlier later : Airing Float, t.audio.played = [earlier.clip, later.clip] ∧ earlier.ends ≤ later.since := by
  intro config s early t
  have hprogramme : Programme s t :=
    .trans (.start config s) (.trans (.frame .absent 0.5 ⟨by decide, by decide⟩ nofun nofun _)
      (.trans (.play 0 _) (.frame .absent 9.0 ⟨by decide, by decide⟩ nofun nofun _)))
  obtain ⟨⟨airings, hairs⟩, hlog, -⟩ :=
    clips_never_overlap rfl ⟨by decide, by decide⟩ (List.forall_mem_nil _) hprogramme
  obtain ⟨hapart, hplayed⟩ := hlog airings hairs
  have htwo : airings.length = 2 := by
    have hlength : t.audio.played.length = 2 := by decide +kernel
    rwa [hplayed, List.length_reverse, List.length_map] at hlength
  obtain ⟨later, earlier, rfl⟩ := List.length_eq_two.1 htwo
  exact ⟨earlier, later, hplayed, List.rel_of_pairwise_cons hapart List.mem_cons_self⟩

end Bot
end Bystander
