import Bystander.Data.Basic
/-! # What is wrong with settings

Every setting that cannot be used is one issue: what kind it is of, where it stands and, for a check of its own, its
message.  The value that was refused is not repeated in it: whoever has the place finds it in the tree.  Settings are
checked all at once: the issues of several fields are collected in the order of the fields.
-/
namespace Bystander

inductive Place where
  | key (name : String)
  | index (n : Int)
deriving DecidableEq, Repr

inductive IssueKind where
  | modelType
  | recordType
  | mapType
  | textType
  | textPattern
  | textEncoding
  | floatType
  | floatParsing
  | intType
  | intParsing
  | intParsingSize
  | intFraction
  | notFinite
  | boolType
  | boolParsing
  | pairType
  | missing
  | tooLong
  | above
  | notAbove
  | below
  | rejected
deriving DecidableEq, Repr

def IssueKind.name : IssueKind → String
  | .modelType => "model_type"
  | .recordType => "dataclass_type"
  | .mapType => "dict_type"
  | .textType => "string_type"
  | .textPattern => "string_pattern_mismatch"
  | .textEncoding => "string_unicode"
  | .floatType => "float_type"
  | .floatParsing => "float_parsing"
  | .intType => "int_type"
  | .intParsing => "int_parsing"
  | .intParsingSize => "int_parsing_size"
  | .intFraction => "int_from_float"
  | .notFinite => "finite_number"
  | .boolType => "bool_type"
  | .boolParsing => "bool_parsing"
  | .pairType => "tuple_type"
  | .missing => "missing"
  | .tooLong => "too_long"
  | .above => "less_than_equal"
  | .notAbove => "greater_than"
  | .below => "greater_than_equal"
  | .rejected => "value_error"

/-- One thing that is wrong: its kind, its place and its message, without the value that was refused. -/
inductive Issue where
  | plain (kind : IssueKind) (path : List Place)
  | failed (path : List Place) (message : String)
  | nested (path : List Place) (inner : List Issue)

def Issue.under (place : Place) : Issue → Issue
  | .plain kind path => .plain kind (place :: path)
  | .failed path message => .failed (place :: path) message
  | .nested path inner => .nested (place :: path) inner

/-- A checked setting: its value, or all that is wrong with it. -/
inductive Checked (β : Type) where
  | accepted (value : β)
  | rejected (issues : List Issue)

namespace Checked

variable {β γ : Type}

/-- An issue of the setting as a whole. -/
def refuse (kind : IssueKind) : Checked β := .rejected [.plain kind []]

def map (f : β → γ) : Checked β → Checked γ
  | .accepted b => .accepted (f b)
  | .rejected issues => .rejected issues

/-- A further field for a record under construction; the issues of both are kept, the earlier first. -/
def field (f : Checked (β → γ)) (b : Checked β) : Checked γ :=
  match f, b with
  | .accepted f, .accepted b => .accepted (f b)
  | .accepted _, .rejected issues => .rejected issues
  | .rejected issues, .accepted _ => .rejected issues
  | .rejected earlier, .rejected later => .rejected (earlier ++ later)

/-- A check that is made only of an accepted value. -/
def andThen (b : Checked β) (f : β → Checked γ) : Checked γ :=
  match b with
  | .accepted b => f b
  | .rejected issues => .rejected issues

/-- The setting as it stands under a step of the tree. -/
def under (place : Place) : Checked β → Checked β
  | .accepted b => .accepted b
  | .rejected issues => .rejected (issues.map (Issue.under place))

@[simp] theorem map_accepted (f : β → γ) (b : β) : map f (.accepted b) = .accepted (f b) := rfl

@[simp] theorem under_accepted (place : Place) (b : β) : under place (.accepted b) = .accepted b := rfl

@[simp] theorem andThen_accepted (b : β) (f : β → Checked γ) : andThen (.accepted b) f = f b := rfl

/-- A record is accepted when all its fields are. -/
theorem field_eq_accepted_iff (f : Checked (β → γ)) (b : Checked β) (c : γ) :
    field f b = .accepted c ↔ ∃ g x, f = .accepted g ∧ b = .accepted x ∧ g x = c := by
  cases f <;> cases b <;> simp [field]

theorem andThen_eq_accepted_iff (b : Checked β) (f : β → Checked γ) (c : γ) :
    andThen b f = .accepted c ↔ ∃ x, b = .accepted x ∧ f x = .accepted c := by
  cases b <;> simp [andThen]

theorem under_eq_accepted_iff (place : Place) (b : Checked β) (x : β) :
    under place b = .accepted x ↔ b = .accepted x := by
  cases b <;> simp [under]

end Checked
end Bystander
