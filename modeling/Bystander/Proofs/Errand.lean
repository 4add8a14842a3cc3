import Bystander.Proofs.FrameLoop
/-! # Histories of a scheduler, with every moment written down

An errand is what somebody does with a scheduler: calls of it, steps of its own in between, and after each call a choice
by what came of it.  What timers and callbacks do is again an errand, so a callback may register timers, connect and
disconnect, order frames within the frame that calls it, catch what fails there, and fail.  An errand is carried out on
a stage by the operations of the frame loop themselves (`Errand.act`).

To speak about every moment of a history, and not only of its end, the same errand is carried out with a record of
each thing that the scheduler does and of the scheduler right after it (`Errand.told`).  The record changes nothing:
what is answered and the stage that is left behind are the same (`told_act`).
-/
namespace Bystander

open Act (run_bind run_get_bind run_modify_bind run_orElse)

variable {α κ τ ρ : Type} [Scalar α]

/-- **What somebody does with a scheduler.**  The answer of a call that may fail is the fault, if there is one.  Frames
take deltas that are finite or else refused. -/
inductive Errand (α κ τ ρ : Type) [Scalar α] where
  | done
  | fail (fault : Fault α)
  | own (change : Stage α κ τ ρ → Stage α κ τ ρ) (h : ∀ s, (change s).scheduler = s.scheduler)
      (next : Stage α κ τ ρ → Errand α κ τ ρ)
  | book (purpose : τ) (delay : α) (next : Option (Fault α) → Errand α κ τ ρ)
  | connect (k : κ) (next : Errand α κ τ ρ)
  | disconnect (k : κ) (next : Errand α κ τ ρ)
  | step (spare : Nat) (delta : α) (h : Scalar.isFinite delta = true ∨ delta < 0.0)
      (onTimer : τ → Errand α κ τ ρ) (onFrame : κ → α → Errand α κ τ ρ) (next : Option (Fault α) → Errand α κ τ ρ)

/-- One thing that a scheduler does. -/
inductive Deed (α κ τ : Type) where
  /-- A timer was registered at a time for a delay. -/
  | accepted (t : Timer α τ) (since delay : α)
  | refused (fault : Fault α)
  | connected (k : κ)
  | disconnected (k : κ)
  | advanced (delta : α)
  | fired (t : Timer α τ)
  /-- What a timer is for has failed. -/
  | broke (t : Timer α τ) (fault : Fault α)
  /-- The timers of a frame are done, and its callbacks begin. -/
  | calling
  | called (k : κ) (delta : α)

/-- A deed with the scheduler right after it. -/
structure Moment (α κ τ : Type) where
  deed : Deed α κ τ
  scheduler : Scheduler α κ τ

/-- A stage with the moments of its scheduler so far, the latest first. -/
structure Chronicle (α κ τ ρ : Type) where
  stage : Stage α κ τ ρ
  latestFirst : List (Moment α κ τ)

def Act.fault {β : Type} : Except (Fault α) β → Option (Fault α)
  | .ok _ => none
  | .error fault => some fault

namespace Errand

def act [BEq κ] : Errand α κ τ ρ → Act (Fault α) (Stage α κ τ ρ) Unit
  | .done => return
  | .fail fault => throw fault
  | .own change _ next => do
    modify change
    act (next (← get))
  | .book purpose delay next => do
    let result ← (Stage.scheduling (Scheduler.setTimeout purpose delay)).observe
    act (next (Act.fault result))
  | .connect k next => do
    modify fun s => { s with scheduler := s.scheduler.connect k }
    act next
  | .disconnect k next => do
    modify fun s => { s with scheduler := s.scheduler.disconnect k }
    act next
  | .step spare delta _ onTimer onFrame next => do
    let h : Handlers α κ τ ρ := ⟨fun purpose => act (onTimer purpose), fun k delta => act (onFrame k delta)⟩
    let result ← (Stage.step h spare delta).observe
    act (next (Act.fault result))

end Errand

namespace Chronicle

def plain {β : Type} (act : Act (Fault α) (Stage α κ τ ρ) β) : Act (Fault α) (Chronicle α κ τ ρ) β :=
  act.zoom (·.stage) fun stage c => { c with stage }

def note (deed : Deed α κ τ) : Act (Fault α) (Chronicle α κ τ ρ) Unit :=
  modify fun c => { c with latestFirst := ⟨deed, c.stage.scheduler⟩ :: c.latestFirst }

def admitting {β : Type} (deed : Fault α → Deed α κ τ) (act : Act (Fault α) (Chronicle α κ τ ρ) β) :
    Act (Fault α) (Chronicle α κ τ ρ) β :=
  act.orElse fun fault => do
    note (deed fault)
    throw fault

/-- An operation of the scheduler, and what is said of it, which may name the scheduler before. -/
def operation (deed : Scheduler α κ τ → Deed α κ τ) (f : Scheduler α κ τ → Except (Fault α) (Scheduler α κ τ)) :
    Act (Fault α) (Chronicle α κ τ ρ) Unit := do
  let before := (← get).stage.scheduler
  admitting .refused (plain (Stage.scheduling f))
  note (deed before)

def booked (purpose : τ) (delay : α) (before : Scheduler α κ τ) : Deed α κ τ :=
  .accepted ⟨before.now + delay / 1000.0, before.nextSerial, purpose⟩ before.now delay

/-- Fires due timers as a frame does. -/
def fireDue (onTimer : τ → Act (Fault α) (Chronicle α κ τ ρ) Unit) : Nat → Act (Fault α) (Chronicle α κ τ ρ) Unit
  | 0 => do
    match (← get).stage.scheduler.takeDue with
    | none => return
    | some _ => throw .endlessTimers
  | limit + 1 => do
    match (← get).stage.scheduler.takeDue with
    | none => return
    | some (t, scheduler) =>
      modify fun c => { c with stage := { c.stage with scheduler } }
      note (.fired t)
      admitting (.broke t) (onTimer t.purpose)
      fireDue onTimer limit

def callAll (onFrame : κ → α → Act (Fault α) (Chronicle α κ τ ρ) Unit) (delta : α) :
    List κ → Act (Fault α) (Chronicle α κ τ ρ) Unit
  | [] => return
  | k :: rest => do
    note (.called k delta)
    onFrame k delta
    callAll onFrame delta rest

def step (onTimer : τ → Act (Fault α) (Chronicle α κ τ ρ) Unit)
    (onFrame : κ → α → Act (Fault α) (Chronicle α κ τ ρ) Unit) (spare : Nat) (delta : α) :
    Act (Fault α) (Chronicle α κ τ ρ) Unit := do
  operation (fun _ => .advanced delta) (Scheduler.advance delta)
  fireDue onTimer ((← get).stage.scheduler.timers.length + spare)
  note .calling
  callAll onFrame delta (← get).stage.scheduler.callbacks

end Chronicle

/-- Carries out an errand on a stage and writes down every moment. -/
def Errand.told [BEq κ] : Errand α κ τ ρ → Act (Fault α) (Chronicle α κ τ ρ) Unit
  | .done => return
  | .fail fault => throw fault
  | .own change _ next => do
    Chronicle.plain (modify change)
    told (next (← get).stage)
  | .book purpose delay next => do
    let result ← (Chronicle.operation (Chronicle.booked purpose delay) (Scheduler.setTimeout purpose delay)).observe
    told (next (Act.fault result))
  | .connect k next => do
    Chronicle.operation (fun _ => .connected k) fun s => .ok (s.connect k)
    told next
  | .disconnect k next => do
    Chronicle.operation (fun _ => .disconnected k) fun s => .ok (s.disconnect k)
    told next
  | .step spare delta _ onTimer onFrame next => do
    let result ← (Chronicle.step (fun purpose => told (onTimer purpose)) (fun k delta => told (onFrame k delta))
      spare delta).observe
    told (next (Act.fault result))

/-! ## The record changes nothing -/

namespace Chronicle

variable {β γ : Type}

/-- A recorded action answers what the plain one answers and leaves the same stage behind. -/
def Follows (told : Act (Fault α) (Chronicle α κ τ ρ) β) (act : Act (Fault α) (Stage α κ τ ρ) β) : Prop :=
  ∀ c, act.run c.stage = ((told.run c).1, (told.run c).2.stage)

omit [Scalar α] in
theorem follows_pure (b : β) : Follows (pure b : Act (Fault α) (Chronicle α κ τ ρ) β) (pure b) := fun _ => rfl

omit [Scalar α] in
theorem follows_throw (fault : Fault α) :
    Follows (throw fault : Act (Fault α) (Chronicle α κ τ ρ) β) (throw fault) := fun _ => rfl

omit [Scalar α] in
theorem follows_plain (act : Act (Fault α) (Stage α κ τ ρ) β) : Follows (plain act) act := fun _ => rfl

variable {told : Act (Fault α) (Chronicle α κ τ ρ) β} {act : Act (Fault α) (Stage α κ τ ρ) β}

omit [Scalar α] in
theorem Follows.bind {toldNext : β → Act (Fault α) (Chronicle α κ τ ρ) γ} {next : β → Act (Fault α) (Stage α κ τ ρ) γ}
    (h : Follows told act) (hnext : ∀ b, Follows (toldNext b) (next b)) :
    Follows (told >>= toldNext) (act >>= next) := by
  intro c
  rw [run_bind, run_bind, h c]
  rcases told.run c with ⟨fault | b, after⟩
  · rfl
  · exact hnext b after

omit [Scalar α] in
theorem Follows.noted (h : Follows told act) (deed : Deed α κ τ) : Follows (note deed >>= fun _ => told) act := by
  intro c
  rw [note, run_modify_bind]
  exact h ⟨c.stage, ⟨deed, c.stage.scheduler⟩ :: c.latestFirst⟩

omit [Scalar α] in
theorem Follows.admitting (h : Follows told act) (deed : Fault α → Deed α κ τ) : Follows (admitting deed told) act := by
  intro c
  rw [Chronicle.admitting, run_orElse, h c]
  rcases told.run c with ⟨fault | b, after⟩ <;> rfl

omit [Scalar α] in
theorem Follows.observe (h : Follows told act) : Follows told.observe act.observe := by
  intro c
  rw [Act.run_observe, Act.run_observe, h c]

omit [Scalar α] in
theorem follows_operation (deed : Scheduler α κ τ → Deed α κ τ)
    (f : Scheduler α κ τ → Except (Fault α) (Scheduler α κ τ)) :
    Follows (operation deed f : Act (Fault α) (Chronicle α κ τ ρ) Unit) (Stage.scheduling f) := by
  intro c
  rw [operation, run_get_bind, run_bind, ((follows_plain (Stage.scheduling f)).admitting .refused) c]
  rcases (Chronicle.admitting .refused (plain (Stage.scheduling f))).run c with ⟨fault | u, after⟩ <;> rfl

theorem follows_fireDue {onTimer : τ → Act (Fault α) (Chronicle α κ τ ρ) Unit} {h : Handlers α κ τ ρ}
    (hTimer : ∀ purpose, Follows (onTimer purpose) (h.onTimer purpose)) :
    ∀ limit, Follows (fireDue onTimer limit) (Stage.fireDue h limit)
  | 0 => by
    intro c
    rw [fireDue, Stage.run_fireDue_zero, run_get_bind]
    cases c.stage.scheduler.takeDue <;> rfl
  | limit + 1 => by
    intro c
    rw [fireDue, Stage.fireDue, run_get_bind, run_get_bind]
    cases c.stage.scheduler.takeDue with
    | none => rfl
    | some due =>
      dsimp only
      rw [run_modify_bind, run_modify_bind]
      have hrest : Follows
          (Chronicle.admitting (.broke due.1) (onTimer due.1.purpose) >>= fun _ => fireDue onTimer limit)
          (h.onTimer due.1.purpose >>= fun _ => Stage.fireDue h limit) :=
        ((hTimer due.1.purpose).admitting _).bind fun _ => follows_fireDue hTimer limit
      exact hrest.noted (.fired due.1) { c with stage := { c.stage with scheduler := due.2 } }

omit [Scalar α] in
theorem follows_callAll {onFrame : κ → α → Act (Fault α) (Chronicle α κ τ ρ) Unit} {h : Handlers α κ τ ρ} {delta : α}
    (hFrame : ∀ k, Follows (onFrame k delta) (h.onFrame k delta)) :
    ∀ callbacks, Follows (callAll onFrame delta callbacks) (Stage.callAll h delta callbacks)
  | [] => follows_pure ()
  | k :: rest => ((hFrame k).bind fun _ => follows_callAll hFrame rest).noted _

theorem follows_step {onTimer : τ → Act (Fault α) (Chronicle α κ τ ρ) Unit}
    {onFrame : κ → α → Act (Fault α) (Chronicle α κ τ ρ) Unit} {h : Handlers α κ τ ρ} {spare : Nat} {delta : α}
    (hTimer : ∀ purpose, Follows (onTimer purpose) (h.onTimer purpose))
    (hFrame : ∀ k, Follows (onFrame k delta) (h.onFrame k delta)) :
    Follows (step onTimer onFrame spare delta) (Stage.step h spare delta) := by
  refine (follows_operation _ _).bind fun _ c => ?_
  rw [run_get_bind, run_get_bind]
  refine Follows.bind (follows_fireDue hTimer _) (fun _ => Follows.noted (fun c => ?_) _) c
  rw [run_get_bind, run_get_bind]
  exact follows_callAll hFrame _ c

end Chronicle

/-- **The record changes nothing**: what is answered and the stage left behind are those of the errand itself. -/
theorem Errand.told_act [BEq κ] : ∀ errand : Errand α κ τ ρ, Chronicle.Follows errand.told errand.act
  | .done => Chronicle.follows_pure ()
  | .fail fault => Chronicle.follows_throw fault
  | .own change _ next => by
    refine (Chronicle.follows_plain _).bind fun _ c => ?_
    rw [run_get_bind, run_get_bind]
    exact told_act (next c.stage) c
  | .book purpose delay next =>
    (Chronicle.follows_operation _ _).observe.bind fun result => told_act (next (Act.fault result))
  | .connect k next => (Chronicle.follows_operation _ fun s => .ok (s.connect k)).bind fun _ => told_act next
  | .disconnect k next => (Chronicle.follows_operation _ fun s => .ok (s.disconnect k)).bind fun _ => told_act next
  | .step spare delta _ onTimer onFrame next => by
    refine Chronicle.Follows.bind ?_ fun result => told_act (next (Act.fault result))
    exact (Chronicle.follows_step (fun purpose => told_act (onTimer purpose))
      (fun k => told_act (onFrame k delta))).observe

end Bystander
