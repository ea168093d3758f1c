import Facets.Activity.Recorder
import Facets.Facet.Narrow
import Facets.Facet.Count

/-!
The commands of a session and their answers. A session works on one index and keeps facets,
histograms and result sets under names.
-/

namespace Facets

/-- A result set in a command: items, items with scores, or one kept under a name. -/
inductive HitSource where
  | items (items : List Item)
  | scored (items : List Item) (scores : List UInt32)
  | saved (name : String)

/-- Ordinals in a command: given outright, or those of a histogram. -/
inductive OrdinalSource where
  | given (ordinals : List Ordinal)
  | ofHistogram (name : String)

inductive DictionaryQuery where
  | termAt (ordinal : Ordinal)
  | find (term : String)
  | size

inductive Command where
  /-- Opens a field under a name, in the mode given or the default one. -/
  | bind (name field : String) (mode : Option Mode)
  | facet (name : String)
  | count (name : String) (hits : HitSource)
  | narrow (name : String) (hits : HitSource) (ordinals : OrdinalSource) (save : Option String)
  | describe (name : String)
  | render (name : String)
  | renderWith (name : String) (format : NumberFormat)
  | counts (name : String) (ordinals : List Ordinal)
  | label (name : String) (ordinal : Ordinal)
  | describeLabel (name : String) (ordinal : Ordinal)
  | sort (name : String)
  | histogram (name : String)
  | copy (name newName : String)
  | drain (name : String)
  /-- Runs commands while a listener has the turn: the listener of a number, or a new one. -/
  | under (listener : Option Listener) (commands : List Command)
  | report (since : Option Nat)
  | reset
  | settings
  | traits (field : String)
  | rowsOf (items : List Item)
  | read (field : String) (rows : List RowId)
  | terms (field : String) (queries : List DictionaryQuery)
  | groups (field : String) (queries : List DictionaryQuery)
  /-- The ordinals of terms and of composite texts in an index of tables. -/
  | tables (field : String) (terms composites : List String)

/-- Runs commands with a listener of their own. -/
def Command.listen (commands : List Command) : Command := .under none commands

structure FacetView where
  field : String
  mode : Mode
  traits : Traits
  shape : Option Shape
  isEvent : Bool
  scale : Option LinearScale
  format : NumberFormat

inductive RowView where
  | word (value : Option Int64)
  | words (values : List Int64)
  | ordinal (value : Option Ordinal)
  | ordinals (values : List Ordinal)
  | complaint (error : SourceError)

inductive DictionaryView where
  | term (text : String)
  | ordinal (value : Option Ordinal)
  | size (n : Nat)
  | complaint (error : SourceError)

inductive Answer where
  | done
  | failed (failure : Failure)
  | sourceFailed (error : SourceError)
  | noFacet
  | noHistogram
  | notALabel
  | facet (view : FacetView)
  | counted (histogram : Histogram) (scale : Option LinearScale)
  | narrowed (hits : Hits) (scale : Option LinearScale)
  | text (text : String)
  | texts (texts : List String)
  | numbers (numbers : List (Option Nat))
  | label (view : Label.View)
  | histogram (histogram : Histogram)
  | drained (counts : List (Ordinal × Nat))
  | listened (answers : List Answer) (events : List Event)
  | report (report : Report)
  | settings (settings : Settings)
  | traits (traits : Traits)
  | column (shape : Shape) (size : Option Nat) (rows : List RowView)
  | dictionary (answers : List DictionaryView)
  | tables (documents soughtTerms : Nat) (terms composites : List (Option Ordinal))

end Facets
