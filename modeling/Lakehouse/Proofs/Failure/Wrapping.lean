import Lakehouse.Failure
import Mathlib.Data.List.Basic

/-!
# Failures that are handed on

On its way to whoever reads it a failure is reported by a collection task, passed through a template,
or has another failure put behind it, any number of times and in any order. Each time a failure is made
from what is shown of the one before, and that has three forms: the kind alone, the message alone, or
both.

- `Wrapping`, `Failure.wrap`, `Failure.wrapAll`: a step in which a failure is handed on, and any number
  of them.
- `Failure.display_wrap`, `Failure.display_wrapAll`: whichever form was shown, a step only puts a text
  of its own in front of it.
- `Failure.message_suffix_wrapAll`, `Failure.kind_wrapAll`, `Failure.exists_cause_wrapAll`: what becomes
  of the message, the kind and the cause.
- **`wrapping_keeps_the_cause`**: however a failure is handed on, the message and what is shown end with
  the first message, the kind is the last that a step gave, and there is a cause behind it.
-/

namespace Lakehouse

namespace Text

variable {s t : String}

/-- A text ends with another exactly if its characters do. -/
theorem endsWith_iff : s.endsWith t = true ↔ t.toList <:+ s.toList := by
  rw [String.endsWith_eq_endsWith_toSlice, String.Slice.endsWith_string_iff, String.copy_toSlice]

theorem suffix_append : t.toList <:+ (s ++ t).toList := by
  rw [String.toList_append]
  exact List.suffix_append _ _

end Text

/-- A step in which a failure is handed on. -/
inductive Wrapping where
  /-- The collection task with this label reports the failure. -/
  | task (label : String)
  /-- Another failure, shown as this text, is put behind it. -/
  | cause (text : String)
  /-- The failure goes out to a template and comes back. -/
  | template
  deriving DecidableEq, Repr

namespace Wrapping

/-- The kind that the step gives to the failure, if it gives one. -/
def kind? : Wrapping → Option FailureKind
  | task _ => some .aggregationTask
  | cause _ => none
  | template => some .configuration

/-- What the step puts in front of what was shown. -/
def front : Wrapping → String
  | task label => FailureKind.aggregationTask.title ++ ": " ++ (label ++ ": ")
  | cause _ => ""
  | template => FailureKind.configuration.title ++ ": " ++ "invalid operation: "

/-- What steps one after the other put in front, the last one first. -/
def fronts : List Wrapping → String
  | [] => ""
  | w :: rest => fronts rest ++ w.front

end Wrapping

namespace Failure

/-- The failure after a step. -/
def wrap (f : Failure) : Wrapping → Failure
  | .task label => ofTask label f
  | .cause text => f.withCause text
  | .template => f.toTemplate.toFailure

/-- The failure after steps one after the other. -/
def wrapAll (f : Failure) (ws : List Wrapping) : Failure :=
  ws.foldl wrap f

variable (f : Failure) (w : Wrapping) (ws : List Wrapping)

@[simp] theorem wrapAll_nil : f.wrapAll [] = f := rfl

@[simp] theorem wrapAll_cons : f.wrapAll (w :: ws) = (f.wrap w).wrapAll ws := rfl

theorem wrapAll_concat : f.wrapAll (ws ++ [w]) = (f.wrapAll ws).wrap w :=
  List.foldl_append

/-! ## What is shown -/

/-- A message that is not a driver's is shown after its kind. -/
theorem display_of_message {f : Failure} (hmessage : f.message ≠ "") (hkind : f.kind ≠ .driver) :
    f.display = f.kind.title ++ ": " ++ f.message := by
  rw [display, if_neg hmessage, if_neg hkind]

/-- A task makes a message of its label, even of a failure that had none. -/
theorem display_ofTask (label : String) : (ofTask label f).display =
    FailureKind.aggregationTask.title ++ ": " ++ (label ++ ": " ++ f.display) := by
  have hmessage : (ofTask label f).message ≠ "" := by simp [ofTask]
  have hkind : (ofTask label f).kind ≠ .driver := by simp [ofTask]
  exact display_of_message hmessage hkind

theorem display_withCause (text : String) : (f.withCause text).display = f.display := by
  rw [display, display, withCause]

@[simp] theorem detail_toTemplate : f.toTemplate.detail = f.display := rfl

end Failure

namespace TemplateFailure

variable (t : TemplateFailure)

-- a statement of its own, since to rewrite by the definition makes Lean evaluate the text
theorem display_eq : t.display = "invalid operation: " ++ t.detail := rfl

/-- A template shows at least the kind of its failure, so that what comes back has a message. -/
theorem display_toFailure :
    t.toFailure.display = FailureKind.configuration.title ++ ": " ++ t.display := by
  have hmessage : t.toFailure.message ≠ "" := by simp [toFailure, display_eq]
  have hkind : t.toFailure.kind ≠ .driver := by simp [toFailure]
  exact Failure.display_of_message hmessage hkind

end TemplateFailure

namespace Failure

variable (f : Failure) (w : Wrapping) (ws : List Wrapping)

/-- A step puts its text in front of what was shown, whichever form that had. -/
theorem display_wrap : (f.wrap w).display = w.front ++ f.display := by
  cases w with
  | task label => simp only [wrap, display_ofTask, Wrapping.front, String.append_assoc]
  | cause text => rw [wrap, display_withCause, Wrapping.front, String.empty_append]
  | template =>
    simp only [wrap, TemplateFailure.display_toFailure, TemplateFailure.display_eq, detail_toTemplate,
      Wrapping.front, String.append_assoc]

/-- Steps leave what was shown first at the end of what is shown, with nothing but their own texts in
front of it. -/
theorem display_wrapAll : (f.wrapAll ws).display = Wrapping.fronts ws ++ f.display := by
  induction ws generalizing f with
  | nil => rw [wrapAll_nil, Wrapping.fronts, String.empty_append]
  | cons w rest ih => rw [wrapAll_cons, ih, display_wrap, Wrapping.fronts, String.append_assoc]

/-- All three forms end with the message. -/
theorem message_suffix_display : f.message.toList <:+ f.display.toList := by
  rw [display]
  -- the three forms in turn: the kind alone, a driver's message alone, and both
  split
  case isTrue hempty =>
    rw [hempty]
    exact List.nil_suffix
  case isFalse =>
    split
    case isTrue => exact List.suffix_refl _
    case isFalse => exact Text.suffix_append

theorem display_suffix_wrapAll : f.display.toList <:+ (f.wrapAll ws).display.toList := by
  rw [display_wrapAll]
  exact Text.suffix_append

theorem display_suffix_toTemplate : f.display.toList <:+ f.toTemplate.display.toList := by
  rw [TemplateFailure.display_eq, detail_toTemplate]
  exact Text.suffix_append

/-! ## The message -/

/-- A task and a template make their message of what was shown. -/
theorem message_suffix_wrap : f.message.toList <:+ (f.wrap w).message.toList := by
  cases w with
  | task label => exact f.message_suffix_display.trans Text.suffix_append
  | cause text => exact List.suffix_refl _
  | template => exact f.message_suffix_display.trans f.display_suffix_toTemplate

theorem message_suffix_wrapAll : f.message.toList <:+ (f.wrapAll ws).message.toList := by
  induction ws generalizing f with
  | nil => exact List.suffix_refl _
  | cons w rest ih => exact (f.message_suffix_wrap w).trans (ih (f.wrap w))

/-! ## The kind and the cause -/

theorem kind_wrap : (f.wrap w).kind = w.kind?.getD f.kind := by
  cases w <;> rfl

/-- The last kind that a step gave stands. -/
theorem kind_wrapAll : (f.wrapAll ws).kind = (ws.filterMap Wrapping.kind?).getLastD f.kind := by
  induction ws generalizing f with
  | nil => rfl
  | cons w rest ih =>
    rw [wrapAll_cons, ih, kind_wrap]
    cases hkind : w.kind? with
    | none => rw [List.filterMap_cons_none hkind, Option.getD_none]
    | some k => rw [List.filterMap_cons_some hkind, Option.getD_some, List.getLastD_cons]

/-- After a step there is a cause: the text put behind the failure, or one that ends with what was
shown. -/
theorem exists_cause_wrap : ∃ text, (f.wrap w).cause = some text ∧
    (w = .cause text ∨ f.display.toList <:+ text.toList) := by
  cases w with
  | task label => exact ⟨f.display, rfl, .inr (List.suffix_refl _)⟩
  | cause text => exact ⟨text, rfl, .inl rfl⟩
  | template => exact ⟨f.toTemplate.display, rfl, .inr f.display_suffix_toTemplate⟩

/-- After at least one step there is a cause, which ends with what was shown first unless the last step
put another failure there. -/
theorem exists_cause_wrapAll {ws : List Wrapping} (hne : ws ≠ []) :
    ∃ text, (f.wrapAll ws).cause = some text ∧
      (ws.getLast? = some (.cause text) ∨ f.display.toList <:+ text.toList) := by
  obtain ⟨earlier, last, rfl⟩ := (List.eq_nil_or_concat' ws).resolve_left hne
  rw [wrapAll_concat, List.getLast?_concat]
  obtain ⟨text, hcause, hbehind | hshown⟩ := (f.wrapAll earlier).exists_cause_wrap last
  · exact ⟨text, hcause, .inl (congrArg some hbehind)⟩
  · exact ⟨text, hcause, .inr ((f.display_suffix_wrapAll earlier).trans hshown)⟩

end Failure

/-! ## However a failure is handed on -/

/-- **Wrapping never loses the cause.** Whatever the failure and whatever the steps in which it is handed
on, the message and what is shown end with the first message, and what is shown is what was shown first
with only the texts of the steps in front of it. The kind is the last that a step gave, a task or a
template each its own, or the first kind if none gave one. After at least one step there is a cause, and
it ends with the first message too unless the last step put another failure there. -/
theorem wrapping_keeps_the_cause (f : Failure) (ws : List Wrapping) :
    (f.wrapAll ws).message.endsWith f.message = true ∧
    (f.wrapAll ws).display.endsWith f.message = true ∧
    (f.wrapAll ws).display = Wrapping.fronts ws ++ f.display ∧
    (f.wrapAll ws).kind = (ws.filterMap Wrapping.kind?).getLastD f.kind ∧
    (ws ≠ [] → ∃ text, (f.wrapAll ws).cause = some text ∧
      (ws.getLast? = some (.cause text) ∨ text.endsWith f.message = true)) := by
  have hdisplay := f.message_suffix_display.trans (f.display_suffix_wrapAll ws)
  refine ⟨Text.endsWith_iff.2 (f.message_suffix_wrapAll ws), Text.endsWith_iff.2 hdisplay,
    f.display_wrapAll ws, f.kind_wrapAll ws, ?_⟩
  intro hne
  obtain ⟨text, hcause, hbehind | hshown⟩ := f.exists_cause_wrapAll hne
  · exact ⟨text, hcause, .inl hbehind⟩
  · exact ⟨text, hcause, .inr (Text.endsWith_iff.2 (f.message_suffix_display.trans hshown))⟩

/-- A backend refuses a query. -/
def refused : Failure := { kind := .driver, message := "[Snowflake] denied" }

/-- The refusal has another failure behind it when it comes through a template to the task that reports
it. -/
def refusalWrappings : List Wrapping := [.cause "timed out", .template, .task "schema s"]

theorem wrapping_keeps_the_cause_refused :
    refusalWrappings ≠ [] ∧
      (refused.wrapAll refusalWrappings).message.endsWith refused.message = true ∧
      (refused.wrapAll refusalWrappings).display =
        "Aggregation Task Error: schema s: Configuration Error: invalid operation: [Snowflake] denied" ∧
      (refused.wrapAll refusalWrappings).kind = .aggregationTask ∧
      ∃ text, (refused.wrapAll refusalWrappings).cause = some text ∧
        text.endsWith refused.message = true := by
  have hne : refusalWrappings ≠ [] := by decide
  obtain ⟨hmessage, -, hdisplay, hkind, hcause⟩ := wrapping_keeps_the_cause refused refusalWrappings
  obtain ⟨text, htext, hlast | hends⟩ := hcause hne
  · cases hlast
  · exact ⟨hne, hmessage, hdisplay.trans (by decide +kernel), hkind, text, htext, hends⟩

end Lakehouse
