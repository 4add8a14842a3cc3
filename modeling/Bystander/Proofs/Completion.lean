import Bystander.Config.Validate
import Bystander.Proofs.Answers
import Bystander.Proofs.Clocks
import Bystander.Proofs.Draws
/-! # Accepted configurations run

A bot whose configuration is accepted starts, since its number is one of the catalog's.  Then every frame of its session
answers, as long as the numbers stay of ordinary size, with two exceptions that no check of the configuration rules out:
a view that is to be queried at a rate of zero fails every frame, and a wave whose end cannot be waited for fails the
frame that starts it.  Nor is it ruled out that the numbers of a walk or a wave are infinite to begin with.
-/
namespace Bystander

open Scalar (Elapses)
open Act (run_bind run_get_bind)

/-! ## What an accepted configuration holds -/

/-- What is read from a field holds of it, if it holds of the default and of all that is accepted. -/
theorem Data.of_fieldOr {β : Type} {P : β → Prop} {entries : List (Data × Data)} {name : String} {default b : β}
    {read : Data → Checked β} (h : fieldOr entries name default read = .accepted b) (hdefault : P default)
    (hread : ∀ d b, read d = .accepted b → P b) : P b := by
  unfold fieldOr at h
  cases hl : lookup name entries with
  | none =>
    rw [hl] at h
    cases h
    exact hdefault
  | some d =>
    rw [hl] at h
    exact hread d b ((Checked.under_eq_accepted_iff _ _ _).1 h)

/-- A number for the looks that the catalog has. -/
def Catalog.Lists (number : Int) : Prop := firstNumber ≤ number ∧ number ≤ lastNumber

theorem Data.lists_of_toIntBetween {d : Data} {n : Int} (h : d.toIntBetween 1 100 = .accepted n) : Catalog.Lists n := by
  obtain ⟨m, -, hm⟩ := (Checked.andThen_eq_accepted_iff _ _ _).1 h
  split at hm
  · cases hm
  · next hhigh =>
    split at hm
    · cases hm
    · next hlow =>
      cases hm
      exact ⟨not_lt.1 hlow, not_lt.1 hhigh⟩

theorem AssetsConfig.lists_of_ofEntries {e : List (Data × Data)} {assets : AssetsConfig}
    (h : AssetsConfig.ofEntries e = .accepted assets) : ∀ n, assets.number = some n → Catalog.Lists n := by
  obtain ⟨make, number, hmake, hnumber, rfl⟩ := (Checked.field_eq_accepted_iff _ _ _).1 h
  obtain ⟨make', root, hmake', -, rfl⟩ := (Checked.field_eq_accepted_iff _ _ _).1 hmake
  cases hmake'
  refine Data.of_fieldOr (P := fun number => ∀ n, number = some n → Catalog.Lists n) hnumber nofun ?_
  intro d read hread n hn
  unfold Data.toOption at hread
  split at hread
  · cases hread
    cases hn
  · cases hr : d.toIntBetween 1 100 with
    | rejected issues =>
      rw [hr] at hread
      cases hread
    | accepted m =>
      rw [hr] at hread
      cases hread
      cases hn
      exact Data.lists_of_toIntBetween hr

/-- **A configured number is one of the catalog's.** -/
theorem BotConfig.lists_of_ofData {d : Data} {config : BotConfig Float} (h : BotConfig.ofData d = .accepted config) :
    ∀ n, config.assets.number = some n → Catalog.Lists n := by
  cases d with
  | map e =>
    obtain ⟨_, behaviors, hfour, -, rfl⟩ := (Checked.field_eq_accepted_iff _ _ _).1 h
    obtain ⟨_, simulation, hthree, -, rfl⟩ := (Checked.field_eq_accepted_iff _ _ _).1 hfour
    obtain ⟨_, assets, htwo, hassets, rfl⟩ := (Checked.field_eq_accepted_iff _ _ _).1 hthree
    obtain ⟨_, spawn, hone, -, rfl⟩ := (Checked.field_eq_accepted_iff _ _ _).1 htwo
    obtain ⟨_, version, hnone, -, rfl⟩ := (Checked.field_eq_accepted_iff _ _ _).1 hone
    cases hnone
    refine Data.of_fieldOr (P := fun assets : AssetsConfig => ∀ n, assets.number = some n → Catalog.Lists n) hassets
      nofun ?_
    intro d assets hassets
    cases d with
    | map e => exact AssetsConfig.lists_of_ofEntries hassets
    | _ => cases hassets
  | _ => cases h

variable {α : Type} [Scalar α]

/-! ## Starts that answer -/

omit [Scalar α] in
/-- **Every number of the catalog has its looks.** -/
theorem Catalog.appearance_of_lists {number : Int} (h : Lists number) (root : String) :
    ∃ appearance', (appearance number root : Except (Fault α) Appearance) = .ok appearance' := by
  obtain ⟨hfirst, hlast⟩ := h
  have hface : ∃ models, (faceAndBody number : Except (Fault α) (String × String)) = .ok models := by
    have hlisted : (decide (number < firstNumber) || decide (lastNumber < number)) = false := by
      simp only [Bool.or_eq_false_iff, decide_eq_false_iff_not, not_lt]
      exact ⟨hfirst, hlast⟩
    unfold faceAndBody
    rw [hlisted, if_neg Bool.false_ne_true]
    split
    · exact ⟨_, rfl⟩
    · have hshared : (sharedFaces.find? fun f => number ≤ f.1).isSome := by
        rw [List.find?_isSome]
        exact ⟨(100, "angie"), by decide, decide_eq_true hlast⟩
      obtain ⟨⟨_, face⟩, hf⟩ := Option.isSome_iff_exists.1 hshared
      rw [hf]
      exact ⟨_, rfl⟩
  obtain ⟨models, hm⟩ := hface
  unfold appearance
  rw [hm]
  exact ⟨_, rfl⟩

/-- **A fair source of doubles picks sounds.** -/
theorem Source.Fair.picksSounds {source : Source Float} (h : source.Fair) : source.PicksSounds := by
  rintro r ⟨t, ht, rfl⟩
  have hcount : Double.reading (Scalar.ofNat Catalog.soundNames.length) =
      .finite .positive (3 * 2 ^ 51) (-47) (by decide) := rfl
  exact Double.isFinite_mul (h t ht) hcount (by decide)

/-- The ends of waves that fire leave a scene in order. -/
theorem Scene.InOrder.rings {κ τ : Type} {settings : Settings α} {source : Source α} {time delta : α}
    {s t : Scene α κ τ} (h : s.InOrder settings source time) (ht : Scene.Rings (s.ticked delta) t) :
    t.InOrder settings source time := by
  obtain ⟨_, _, _, _, wave, episode, -, -, hkept, rfl⟩ := ht
  refine ⟨h.told, h.clips, h.leads, h.clock, fun e he => ?_, h.walk⟩
  rcases hkept with ⟨-, rfl⟩ | ⟨-, rfl⟩
  · exact h.wave e he
  · cases he

namespace Bot

/-- **A start answers** if its number, configured or drawn, is one of the catalog's. -/
theorem start_answers {γ : Type} [DecidableEq γ] {config : BotConfig α} {s : BotStage α γ}
    (hrunning : isRunning s = false) (hconfigured : ∀ n, config.assets.number = some n → Catalog.Lists n)
    (hdrawn : config.assets.number = none → ∃ k, (s.cast.source.below Catalog.lastNumber.toNat).1 = .ok k) :
    ∃ first, (start config).run s = (.ok false, first) := by
  have hnumber : ∃ n t, (chooseNumber config).run s = (.ok n, t) ∧ Catalog.Lists n := by
    unfold chooseNumber
    cases hn : config.assets.number with
    | some n => exact ⟨n, s, rfl, hconfigured n hn⟩
    | none =>
      obtain ⟨k, hk⟩ := hdrawn hn
      have hlt : k < 100 := Source.below_lt (by decide) hk
      have hrun : (drawNumber : Act (Fault α) (BotStage α γ) Int).run s =
          ((s.cast.source.below Catalog.lastNumber.toNat).1.map fun k => (k : Int) + Catalog.firstNumber,
            { s with cast := { s.cast with source := (s.cast.source.below Catalog.lastNumber.toNat).2 } }) := rfl
      rw [hk] at hrun
      refine ⟨_, _, hrun, ?_⟩
      change 1 ≤ (k : Int) + 1 ∧ (k : Int) + 1 ≤ 100
      omega
  obtain ⟨n, t, hr, hlists⟩ := hnumber
  obtain ⟨appearance, happearance⟩ := Catalog.appearance_of_lists (α := α) hlists config.assets.root
  rw [start, run_get_bind, hrunning, if_neg Bool.false_ne_true, run_bind, hr]
  dsimp only
  rw [run_bind, enter, run_bind, Act.run_ofExcept, happearance]
  exact ⟨_, rfl⟩

/-! ## Sessions that run -/

/-- What the frames of a session answer, one after the other. -/
def answers {γ : Type} (guests : Guests α γ) : List α → BotStage α γ → List (Except (Fault α) Unit)
  | [], _ => []
  | delta :: deltas, s => ((step guests delta).run s).1 :: answers guests deltas ((step guests delta).run s).2

/-- The moments of frames, each later than the one before by its delta. -/
def moments (since : α) : List α → List α
  | [] => []
  | delta :: deltas => (since + delta) :: moments (since + delta) deltas

variable {settings : Settings α} {source : Source α}

theorem Shows.answers (hsounds : source.PicksSounds) :
    ∀ (deltas : List α) {s : BotStage α Empty} {c : Scene α (Callback Empty) (Alarm Empty)} {time : α}, Shows s c →
      c.Lone → c.InOrder settings source time → (∀ delta ∈ deltas, Elapses delta) →
      (∀ t ∈ moments time deltas, settings.Ordinary source t) →
      ∀ answer ∈ Bot.answers .absent deltas s, settings.Allows source answer
  | [], s, c, time, _, _, _, _, _ => List.forall_mem_nil _
  | delta :: deltas, s, c, time, h, hc, horder, helapses, hordinary => by
    have hdelta : Elapses delta := helapses delta List.mem_cons_self
    -- the ends of waves that fire first leave the scene in order, and then its brain is called
    obtain ⟨d, hrings, -, t, hr, ht⟩ := h.run_step hc hdelta.2
    have hlone : d.Lone := (hc.ticked delta).rings hrings
    have hnow := hordinary (time + delta) List.mem_cons_self
    rw [← Brain.effectiveDelta_of_elapses hdelta] at hnow
    obtain ⟨hanswer, hafter⟩ :=
      Brain.allows_frame (.waveEnd 0) hlone.opened (horder.rings hrings) hsounds hnow
    rw [Brain.effectiveDelta_of_elapses hdelta] at hafter
    unfold Bot.answers
    rw [hr]
    refine List.forall_mem_cons.2 ⟨hanswer, ?_⟩
    exact Shows.answers hsounds deltas ht (hlone.frame delta) hafter
      (fun other hother => helapses other (List.mem_cons_of_mem _ hother))
      fun t ht => hordinary t (List.mem_cons_of_mem _ ht)

/-- **A first start** leaves a scene that is in order. -/
theorem inOrder_of_start {config : BotConfig α} {first : BotStage α Empty} {answer : Bool}
    (h : (start config).run (waiting source) = (.ok answer, first)) :
    ∃ c, Shows first c ∧ c.Lone ∧ c.InOrder config.settings source 0.0 ∧ ∃ spawn avatar, c.brain =
      .opening config.settings config.spawn ((Catalog.soundUrls config.assets.root).map loadClip) spawn avatar := by
  obtain ⟨c, hc, hlone, -, -, hleads, spawn, avatar, hbrain⟩ := shows_of_start h
  refine ⟨c, hc, hlone, ⟨?_, ?_, hleads, ?_, fun e he => ?_, fun hwalking => ?_⟩, spawn, avatar, hbrain⟩
  · rw [hbrain]
    rfl
  · rw [hbrain]
    exact (List.length_map _).trans (List.length_map _)
  · rw [hbrain]
    rfl
  · rw [hbrain] at he
    cases he
  · rw [hbrain] at hwalking
    cases hwalking

/-- **Every accepted configuration runs**: the bot starts, and each frame of its session answers while the numbers stay
of ordinary size.  Settings are accepted that do not run: with a view that is to be queried at a rate of zero every
frame fails, and a frame that starts a wave fails if the wave's duration is negative or not finite.  Infinite numbers
are accepted too, and are not of ordinary size once time has passed: with an infinite swing frequency or turn rate
frames can fail in which the bot walks on, with a turn range whose width overflows those in which it sets out, and with
an infinite shoulder phase, elbow scale or end of the frequency range those in which it waves on. -/
theorem accepted_runs {d : Data} {config : BotConfig Float} {source : Source Float}
    (haccepted : BotConfig.ofData d = .accepted config) (hfair : source.Fair)
    (hends : config.assets.number = none → (source.below Catalog.lastNumber.toNat).1 ≠ .error .endlessDraws) :
    ∃ first, (start config).run (waiting source : BotStage Float Empty) = (.ok false, first) ∧
      ∀ deltas, (∀ delta ∈ deltas, Elapses delta) →
        (∀ t ∈ moments 0.0 deltas, config.settings.Ordinary source t) →
        ∀ answer ∈ answers .absent deltas first,
          if config.settings.view.Stuck then answer = .error .divisionByZero
          else ∀ fault, answer = .error fault → config.settings.wave.Refused source fault := by
  obtain ⟨first, hfirst⟩ := start_answers (s := (waiting source : BotStage Float Empty)) rfl
    (BotConfig.lists_of_ofData haccepted) fun hnone => Source.below_of_fair hfair (hends hnone)
  refine ⟨first, hfirst, fun deltas helapses hordinary => ?_⟩
  obtain ⟨c, hc, hlone, horder, -⟩ := inOrder_of_start hfirst
  exact hc.answers hfair.picksSounds deltas hlone horder helapses hordinary

/-- A bot that waves in its first frame, with all fractions one half. -/
theorem accepted_runs_waving :
    let d : Data := .map [
      (.text "assets", .map [(.text "bot_number", .int 7)]),
      (.text "behaviors", .map [(.text "wave", .map [(.text "chance", .float 1.0)])])]
    let source : Source Float := .scripted [] 0.5
    let deltas : List Float := [0.5, 0.5]
    ∃ config first, BotConfig.ofData d = .accepted config ∧
      (start config).run (waiting source : BotStage Float Empty) = (.ok false, first) ∧
      ∀ answer ∈ answers .absent deltas first, answer = .ok () := by
  intro d source deltas
  have hgives : ∀ r, source.Gives r → r = 0.5 := fun r hr => Source.gives_scripted_nil hr
  have haccepted : ∃ config, BotConfig.ofData d = .accepted config ∧ config.assets.number = some 7 ∧
      config.settings = { Settings.standard with wave := { WaveSettings.standard with chance := 1.0 } } :=
    ⟨_, rfl, rfl, rfl⟩
  obtain ⟨config, haccepted, hnumber, hsettings⟩ := haccepted
  have hfair : source.Fair := by
    intro t ht
    rw [hgives _ ht.gives]
    decide
  obtain ⟨first, hfirst, hrun⟩ := accepted_runs haccepted hfair (by rw [hnumber]; exact nofun)
  refine ⟨config, first, haccepted, hfirst, fun answer hanswer => ?_⟩
  rw [hsettings] at hrun
  have hfaults := hrun deltas (by decide) (fun t ht => ⟨fun _ => ?_, ?_⟩) answer hanswer
  · rw [if_neg (by decide)] at hfaults
    cases answer with
    | ok u => rfl
    | error fault =>
      obtain ⟨-, r, hr, hrefused, -⟩ := hfaults fault rfl
      rw [hgives r hr] at hrefused
      exact absurd (by decide) hrefused
  · refine ⟨fun r hr => ?_, fun r hr => ?_, fun r hr => ?_⟩ <;> rw [hgives r hr] <;> revert t <;> decide
  · rintro ⟨r, hr, hlt⟩
    rw [hgives r hr] at hlt
    exact absurd hlt (by decide)

end Bot
end Bystander
