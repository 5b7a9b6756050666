/-
# VectorClient.Report.Fault — reports of refused arguments

A refused construction is reported as a list of entries, each a location and a
fault.  A fault is a cause; `Fault.message` is the one place where causes are
worded.  A nested parameter that is refused is one fault that holds its own
entries.
-/
import VectorClient.Report.Inconsistency

namespace VectorClient

set_option autoImplicit false

open Text

/-- One step of the way to a value inside the arguments. -/
inductive Step where
  | name (s : String)
  | index (i : Nat)
  /-- The key of a dictionary entry, rather than its value. -/
  | key
  deriving DecidableEq, Repr

def Step.text : Step → String
  | .name s => s
  | .index i => toString i
  | .key => "[key]"

abbrev Location := List Step

def Location.text (l : Location) : String := String.intercalate "." (l.map Step.text)

/-- Why a value is refused. -/
inductive Fault where
  | missing
  | unknownKeyword
  | notText
  | notUtf8
  | notTruth
  | notInteger
  | notTuple
  | notDict
  | notBytes
  | notAWord (words : List String)
  | notAbove (bound : Int)
  | notAtLeast (bound : Int)
  | notAtMost (bound : Int)
  | tooFew (least actual : Nat)
  | tooMany (most actual : Nat)
  | notAParameter (title : String)
  | unreadableInteger
  | fractional
  | notFinite
  | tooLong
  | blank
  | notSeconds (typeName : String)
  | metricUnset
  | indexUnset
  | inconsistent (cause : Inconsistency)
  /-- A nested parameter was refused with a report of its own. -/
  | refused (title : String) (entries : List (Location × Fault))
  deriving Repr

abbrev Entry := Location × Fault

/-- A list of alternatives, the last one after `or`. -/
def alternatives : List String → String
  | [] => ""
  | [w] => w
  | [v, w] => v ++ " or " ++ w
  | w :: rest => w ++ ", " ++ alternatives rest

/-- A count of items. -/
def itemCount (n : Nat) : String := toString n ++ (if n = 1 then " item" else " items")

/-- An entry as its location and its message; an empty location is left out. -/
def entryText (location message : String) : String :=
  if location.isEmpty then message else location ++ ": " ++ message

/-- A report as its title and its entries. -/
def reportText (title : String) (entries : List String) : String :=
  "Invalid " ++ title ++ ": " ++ String.intercalate "; " entries

namespace Fault

mutual

def message : Fault → String
  | .missing => "Field required"
  | .unknownKeyword => "Extra inputs are not permitted"
  | .notText => "Input should be a valid string"
  | .notUtf8 => "Input should be a valid string, unable to parse raw data as a unicode string"
  | .notTruth => "Input should be a valid boolean"
  | .notInteger => "Input should be a valid integer"
  | .notTuple => "Input should be a valid tuple"
  | .notDict => "Input should be a valid dictionary"
  | .notBytes => "Input should be a valid bytes"
  | .notAWord words => "Input should be " ++ alternatives (words.map quoted)
  | .notAbove bound => "Input should be greater than " ++ toString bound
  | .notAtLeast bound => "Input should be greater than or equal to " ++ toString bound
  | .notAtMost bound => "Input should be less than or equal to " ++ toString bound
  | .tooFew least actual =>
      "Tuple should have at least " ++ itemCount least ++ " after validation, not " ++
        toString actual
  | .tooMany most actual =>
      "Tuple should have at most " ++ itemCount most ++ " after validation, not " ++
        toString actual
  | .notAParameter title => "Input should be a valid dictionary or instance of " ++ title
  | .unreadableInteger => "Input should be a valid integer, unable to parse string as an integer"
  | .fractional => "Input should be a valid integer, got a number with a fractional part"
  | .notFinite => "Input should be a finite number"
  | .tooLong => "Unable to parse input string as an integer, exceeded maximum size"
  | .blank => "must not be empty"
  | .notSeconds typeName => "expected a number of seconds, got " ++ typeName
  | .metricUnset => "metric type is invalid"
  | .indexUnset => "index type is invalid"
  | .inconsistent cause => cause.message
  | .refused title entries => reportText title (messages entries)

/-- The text of each entry. -/
def messages : List (Location × Fault) → List String
  | [] => []
  | (location, fault) :: rest => entryText location.text (message fault) :: messages rest

end

/-- Is the fault a broken rule of the domain, rather than a value of a wrong form? -/
def isRule : Fault → Bool
  | .blank | .notSeconds _ | .metricUnset | .indexUnset | .inconsistent _ | .refused _ _ => true
  | _ => false

/-- The message that says of a broken rule that it is one. -/
def labelled (f : Fault) : String := if f.isRule then "Value error, " ++ f.message else f.message

end Fault

/-- The report of a refused parameter. -/
structure Report where
  title : String
  entries : List Entry
  deriving Repr

namespace Report

def text (r : Report) : String := reportText r.title (Fault.messages r.entries)

/-- The entries alone, broken rules labelled. -/
def labelledText (r : Report) : String :=
  String.intercalate "; " (r.entries.map fun (location, fault) =>
    entryText location.text fault.labelled)

end Report

end VectorClient
