import SchemaCompiler.Schema.Catalog
import SchemaCompiler.Schema.Datatype
import SchemaCompiler.Schema.LabelSet
import SchemaCompiler.Text.Quoted

/-!
Column designs. A field may hold any combination of attributes; whether its labels and members
belong to its datatype is a check of its own. All texts are strings, as a dump has them; `Stored`
has the fields of snapshots, which may hold other values.
-/

namespace SchemaCompiler

structure Field where
  title : String
  datatype : Datatype := .string
  bytes : Option Int := none
  characters : Option Int := none
  decimals : Option Int := none
  regex : Option String := none
  primary : Bool := false
  unique : Bool := false
  required : Bool := false
  foreign : Option String := none
  increment : Bool := false
  /-- The value is assigned by the system, so input may leave it out. -/
  generated : Bool := false
  /-- Labels of an enum, which values refer to by index. -/
  labels : Option (List String) := none
  members : Option LabelSet := none
  deriving DecidableEq

instance : Titled Field String := ⟨Field.title⟩

/-- A design that contradicts itself, or from which no valid name can be made. -/
inductive InternalError where
  | enumWithoutLabels (title : String)
  | labelsWithoutEnum (field : String)
  | setWithoutMembers (title : String)
  | membersWithoutSet (field : String)
  | invalidRegex (title regex reason : String)
  | emptyIdentifier (name : WideText)
  | repeatedMember (enum member : String)
  | noLabels (title : String)
  deriving DecidableEq, Repr

def InternalError.message : InternalError → String
  | .enumWithoutLabels title => s!"Internal error: enum field {title} has no enum attached!"
  | .labelsWithoutEnum field =>
    s!"Internal error: {field} has an enum attached but is not an enum!"
  | .setWithoutMembers title => s!"Internal error: set field {title} has no set attached!"
  | .membersWithoutSet field => s!"Internal error: {field} has a set attached but is not a set!"
  | .invalidRegex title regex reason =>
    s!"Field {title} has an invalid regex {Text.showQuoted regex}: {reason}"
  | .emptyIdentifier name => s!"cannot capitalize the empty identifier {Text.showQuoted name}"
  | .repeatedMember enum member => s!"enum {enum} has the member {member} twice"
  | .noLabels title => s!"Field {title} does not have an associated enum set"

/-- Labels belong to enums and members to sets, and neither may be missing there. -/
def consistency (title display : String) (datatype : Datatype) (labelled membered : Bool) :
    Except InternalError Unit :=
  if datatype == .enum && !labelled then .error (.enumWithoutLabels title)
  else if datatype != .enum && labelled then .error (.labelsWithoutEnum display)
  else if datatype == .set && !membered then .error (.setWithoutMembers title)
  else if datatype != .set && membered then .error (.membersWithoutSet display)
  else .ok ()

theorem consistency_eq_ok_iff {title display : String} {datatype : Datatype}
    {labelled membered : Bool} : consistency title display datatype labelled membered = .ok () ↔
      (datatype = .enum ↔ labelled) ∧ (datatype = .set ↔ membered) := by
  unfold consistency
  by_cases isEnum : datatype = .enum <;> by_cases isSet : datatype = .set <;>
    cases labelled <;> cases membered <;> simp_all

namespace Field

def display (f : Field) : String := s!"{f.title} ({f.datatype.name})"

def checkConsistency (f : Field) : Except InternalError Unit :=
  consistency f.title f.display f.datatype f.labels.isSome f.members.isSome

def Consistent (f : Field) : Prop :=
  (f.datatype = .enum ↔ f.labels.isSome) ∧ (f.datatype = .set ↔ f.members.isSome)

theorem checkConsistency_eq_ok_iff (f : Field) :
    f.checkConsistency = .ok () ↔ f.Consistent := consistency_eq_ok_iff

end Field

end SchemaCompiler
