import Facets.Facet.Basic
import Facets.Text.Quoted

/-!
Facets and labels in words, for inspection.
-/

namespace Facets

/-- A name with its first letter in upper case. -/
def capitalized (name : String) : String :=
  match name.toList with
  | [] => ""
  | c :: rest => String.ofList (c.toUpper :: rest)

/-- A record in words: its name and its fields with their values. -/
def describeRecord (name : String) (fields : List (String × String)) (more : Bool) : String :=
  let inside := fields.map fun (field, value) => field ++ ": " ++ value
  let shown := if more then inside ++ [".."] else inside
  name ++ " \x7b " ++ String.intercalate ", " shown ++ " \x7d"

def describeOption : Option String → String
  | none => "None"
  | some text => "Some(" ++ text ++ ")"

/-- A facet in words. Of a remembered scale only the limits are shown. -/
def Facet.describe (facet : Facet) (memory : FacetMemory) : String :=
  describeRecord "FieldBinding"
    [("field", Text.quote facet.field),
      ("mode", capitalized facet.mode.name),
      ("source", describeOption (facet.shape?.map (·.describe))),
      ("event", toString facet.isEvent),
      ("linear_fit", describeOption (memory.scale.map fun scale =>
        Number.toText scale.low ++ ".." ++ Number.toText scale.high))]
    true

def Label.describe (label : Label) : String :=
  describeRecord "BucketLabel"
    [("ordinal", toString label.ordinal),
      ("style", capitalized label.style.name),
      ("resolved", describeOption (label.resolved.map Text.quote))]
    false

end Facets
