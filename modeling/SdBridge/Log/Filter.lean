import SdBridge.Log.Rule

/-! Which log lines are shown. Of the rules that cover a line the closest decides. -/
namespace SdBridge.Log

abbrev Filter := List Rule

namespace Filter

/-- The filter where none is asked for, or one that cannot be read. -/
def default : Filter := [{ threshold := .info }]

/-- Rules between commas. A filter without rules lets no line of the program pass. -/
def ofText (text : String) : Rule.Step Filter :=
  ((text.splitOn ",").filter (· ≠ "")).mapM Rule.ofText

def shows (f : Filter) (l : Line) : Bool :=
  match f.filter (·.covers l) with
  | [] => false
  | rule :: rest => (rest.foldl Rule.closer rule).threshold.passes l.entry.level

end Filter
end SdBridge.Log
