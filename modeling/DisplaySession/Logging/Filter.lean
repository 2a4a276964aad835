import DisplaySession.Logging.Sink
import DisplaySession.Pattern.Reader
import DisplaySession.Text.Blank
import DisplaySession.Text.Lines

/-
Which lines of a log are written.

A filter is given in words: rules between commas, and behind a slash a pattern for what a line has
to hold. A rule is a level, a target, or a target with a level. A target stands for every target
that begins like it, and the longest rule that fits a line decides alone, so that a narrow rule
can also admit less than a wide one.

A rule or a pattern that cannot be read is passed over with a warning. A filter without rules admits
errors.
-/
set_option autoImplicit false

namespace DisplaySession

/-- **From which level on** lines are admitted; nothing if none is. -/
abbrev Threshold := Option Level

/-- Does a threshold admit a level? -/
def Threshold.admits (threshold : Threshold) (level : Level) : Bool :=
  threshold.any (·.rank ≤ level.rank)

/-- **A rule**: what is admitted of the targets that begin so. A rule without a target is for all.
-/
structure FilterRule where
  target : Option String
  threshold : Threshold
  deriving DecidableEq

namespace FilterRule

/-- Is the rule for this target? -/
def fits (rule : FilterRule) (target : String) : Bool :=
  (rule.target.getD "").toList.isPrefixOf target.toList

/-- How narrow a rule is: the bytes of its target. -/
def narrowness (rule : FilterRule) : Nat :=
  (rule.target.getD "").utf8ByteSize

/-- The narrower of two rules; of two equally narrow ones the second. -/
def narrower (a b : FilterRule) : FilterRule :=
  if a.narrowness ≤ b.narrowness then b else a

end FilterRule

/-- **A filter**: rules with different targets, and maybe a pattern for every line. -/
structure LogFilter where
  rules : List FilterRule
  wanted : Option Pattern
  deriving DecidableEq

namespace LogFilter

/-- The narrowest rule for a target. -/
def ruleFor (filter : LogFilter) (target : String) : Option FilterRule :=
  (filter.rules.filter (·.fits target)).foldl
    (fun best rule => some ((best.map (·.narrower rule)).getD rule)) none

/-- **Is a line written?** -/
def admits (filter : LogFilter) (line : LogLine) : Bool :=
  (filter.ruleFor line.target).any (·.threshold.admits line.level) &&
    filter.wanted.all (·.occursIn line.text.toList)

/-! ## Filters in words -/

/-- The threshold that a word names, in letters of any case. -/
def thresholdOf? (word : List Char) : Option Threshold :=
  let name := String.ofList (word.map Char.toLower)
  if name = "off" then some none else (Level.all.find? (·.name = name)).map some

/-- **The rule in a text**, or the text that spoils it. -/
def ruleOf (text : List Char) : Except (List Char) FilterRule :=
  match Text.split '=' text with
  | [word] =>
    match thresholdOf? word with
    | some threshold => .ok ⟨none, threshold⟩
    | none => .ok ⟨some (String.ofList word), some .trace⟩
  | [target, word] =>
    if Text.trim word = [] then .ok ⟨some (String.ofList target), some .trace⟩
    else
      match thresholdOf? (Text.trim word) with
      | some threshold => .ok ⟨some (String.ofList target), threshold⟩
      | none => .error (Text.trim word)
  | _ => .error text

/-- Adds a rule, in the place of the rule for the same target if there is one. -/
def addRule (rule : FilterRule) : List FilterRule → List FilterRule
  | [] => [rule]
  | r :: rs => if r.target = rule.target then rule :: rs else r :: addRule rule rs

/-- The warning about a text that is no rule. -/
def warning (text : List Char) : String :=
  "invalid logging spec '" ++ String.ofList text ++ "'"

/-- The rules that some texts hold, and the warnings about the others. -/
def rulesOf (texts : List (List Char)) : List FilterRule × List String :=
  texts.foldl
    (fun found text =>
      match ruleOf text with
      | .ok rule => (addRule rule found.1, found.2)
      | .error spoiler => (found.1, found.2 ++ [warning spoiler]))
    ([], [])

/-- A filter of some rules. -/
def ofRules (rules : List FilterRule) (wanted : Option Pattern) : LogFilter :=
  ⟨if rules = [] then [⟨none, some .error⟩] else rules, wanted⟩

/-- The rules in a list of rules between commas. -/
def listedRules (list : List Char) : List FilterRule × List String :=
  rulesOf (((Text.split ',' list).map Text.trim).filter (· ≠ []))

/-- The warning about a pattern that has a fault. -/
def patternWarning (pattern : List Char) (fault : Pattern.Fault) : String :=
  "invalid regex filter - " ++ fault.report pattern

/-- **The filter in a text**, and the warnings about what is no filter. -/
def ofText (text : String) : LogFilter × List String :=
  match Text.split '/' text.toList with
  | [list] => (ofRules (listedRules list).1 none, (listedRules list).2)
  | [list, pattern] =>
    let (rules, warnings) := listedRules list
    match Pattern.read pattern with
    | .ok wanted => (ofRules rules (some wanted), warnings)
    | .error fault => (ofRules rules none, warnings ++ [patternWarning pattern fault])
  | _ => (ofRules [] none, [warning text.toList ++ " (too many '/'s)"])

/-- The filter that admits everything from a level on. -/
def fromLevel (level : Level) : LogFilter :=
  ⟨[⟨none, some level⟩], none⟩

end LogFilter

end DisplaySession
