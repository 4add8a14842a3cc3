import Bystander.Space.Quat
/-! # What a host lends to a bot: a body, a view and a voice

The avatar is a body with a table of joint overrides; the viewer follows the bot through the world; the audio player is
busy for the length of each clip.
-/
namespace Bystander

/-- Joints that the behaviours move, by their place in the skeleton. -/
inductive Joint where
  | hip
  | knee
  | spine
  | shoulder
  | elbow
deriving DecidableEq, Repr

def Joint.index : Joint → Int
  | .hip => 1
  | .knee => 2
  | .spine => 13
  | .shoulder => 17
  | .elbow => 18

/-! ## The joint table -/

/-- Rotations that override joints, in the order of the joints' indices. -/
abbrev JointTable (α : Type) := List (Int × Quat α)

namespace JointTable

variable {α : Type}

def get? (j : Int) : JointTable α → Option (Quat α)
  | [] => none
  | (i, q) :: rest => if i = j then some q else get? j rest

def set (j : Int) (q : Quat α) : JointTable α → JointTable α
  | [] => [(j, q)]
  | (i, r) :: rest => if j < i then (j, q) :: (i, r) :: rest else if j = i then (j, q) :: rest else (i, r) :: set j q rest

def clear (j : Int) (t : JointTable α) : JointTable α := t.filter fun e => e.1 ≠ j

theorem get?_set (j k : Int) (q : Quat α) (t : JointTable α) :
    get? k (set j q t) = if k = j then some q else get? k t := by
  induction t with
  | nil => simp [set, get?, eq_comm]
  | cons e rest ih => simp only [set]; split <;> (try split) <;> simp_all [get?] <;> grind

theorem get?_clear (j k : Int) (t : JointTable α) :
    get? k (clear j t) = if k = j then none else get? k t := by
  induction t with
  | nil => simp [clear, get?]
  | cons e rest ih => unfold clear at ih ⊢; by_cases h : e.1 = j <;> simp_all [get?] <;> grind

end JointTable

/-! ## The devices -/

structure Models where
  face : String
  skeleton : String
  billboard : String
deriving Repr, DecidableEq

structure Avatar (α : Type) where
  position : Vec3 α
  orientation : Quat α
  headPitch : α
  models : Models
  isAgent : Bool
  isListening : Bool
  joints : JointTable α

/-- The view through which the world is streamed, with the count of queries. -/
structure Viewer (α : Type) where
  position : Vec3 α
  orientation : Quat α
  queries : Nat

/-- A sound with its length in milliseconds. -/
structure Clip (α : Type) where
  url : String
  duration : α

/-- A voice: until when it is busy, and the clips played, the latest first. -/
structure Audio (α : Type) where
  busyUntil : α
  latestFirst : List (Clip α)

variable {α : Type} [Scalar α]

/-- The length in milliseconds of a clip of which nothing else is known. -/
def Clip.usualDuration : α := 8000.0

def Avatar.fresh : Avatar α := ⟨.zero, .identity, 0.0, ⟨"", "", ""⟩, false, false, []⟩
def Viewer.fresh : Viewer α := ⟨.zero, .identity, 0⟩
def Audio.fresh : Audio α := ⟨0.0, []⟩

def Audio.isPlaying (now : α) (a : Audio α) : Bool := now < a.busyUntil

def Audio.play (now : α) (clip : Clip α) (a : Audio α) : Audio α :=
  ⟨now + clip.duration / 1000.0, clip :: a.latestFirst⟩

def Audio.played (a : Audio α) : List (Clip α) := a.latestFirst.reverse

def Avatar.setJoints (joints : List Joint) (q : Quat α) (a : Avatar α) : Avatar α :=
  { a with joints := joints.foldl (fun t j => JointTable.set j.index q t) a.joints }

def Avatar.clearJoints (joints : List Joint) (a : Avatar α) : Avatar α :=
  { a with joints := joints.foldl (fun t j => JointTable.clear j.index t) a.joints }

end Bystander
