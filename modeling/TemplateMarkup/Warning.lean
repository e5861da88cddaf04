import TemplateMarkup.Log

/-!
# Warnings

What a template holds that had to be guessed at or ignored. A warning never stops the work.
-/

namespace TemplateMarkup

/-- Something in a template that is not as it should be. -/
inductive Warning where
  /-- A tag is in camelCase; it is taken for the hyphenated one. -/
  | camelCaseTag (tag hyphenated : Text)
  /-- A tag has an attribute twice. -/
  | duplicateAttribute (name : Text)
  /-- A tag has side effects and is left out. -/
  | forbiddenTag (tag : Text)
  /-- There is more than one element at the top. -/
  | multipleRoots
  /-- There is text outside of all elements. -/
  | contentOutsideElement (text : Text)
  /-- A loop header has no separator. -/
  | invalidLoop (expression : Text)
  /-- An else branch follows no condition. -/
  | elseWithoutIf (tag : Text)
  /-- The method of a render call is plain text. -/
  | renderMethodStatic
  /-- A render call has no method. -/
  | renderMethodMissing
  /-- The arguments of a render call are plain text. -/
  | renderArgsStatic
  /-- The plain text of an attribute holds a span. -/
  | interpolationInAttribute (name value : Text)
  /-- An end tag closes nothing. -/
  | unmatchedEndTag (tag : Text)
deriving DecidableEq, Repr

namespace Warning

def message : Warning → Text
  | camelCaseTag tag hyphenated =>
    "Found camelCase tag in template: <".toList ++ tag ++
      ">. It has been converted to <".toList ++ hyphenated ++ ">.".toList
  | duplicateAttribute name => "duplicate attribute: ".toList ++ name
  | forbiddenTag tag =>
    "Templates should only be responsible for mapping the state to the UI. ".toList ++
      "Avoid placing tags with side-effects in your templates, such as <".toList ++ tag ++
      ">.".toList
  | multipleRoots => "Component template should contain exactly one root element.".toList
  | contentOutsideElement text =>
    "text \"".toList ++ text ++ "\" outside the root element will be ignored.".toList
  | invalidLoop expression => "Invalid v-for expression: ".toList ++ expression
  | elseWithoutIf tag =>
    "v-else used on element <".toList ++ tag ++ "> without corresponding v-if.".toList
  | renderMethodStatic =>
    "<render> method should use a dynamic binding, e.g. `:method=\"...\"`.".toList
  | renderMethodMissing => "method attribute is required on <render>.".toList
  | renderArgsStatic =>
    "<render> args should use a dynamic binding, e.g. `:args=\"...\"`.".toList
  | interpolationInAttribute name value =>
    name ++ "=\"".toList ++ value ++
      "\": Interpolation inside attributes has been deprecated. ".toList ++
      "Use v-bind or the colon shorthand instead.".toList
  | unmatchedEndTag tag =>
    "end tag </".toList ++ tag ++ "> has no matching start tag and was ignored.".toList

def record (w : Warning) : LogRecord :=
  ⟨.warn, w.message⟩

end Warning

end TemplateMarkup
