import WikiSync.Client.Calls

/-!
# Explanations of Refusals

What a user is told when the server refuses a call. The server may explain itself in the
JSON body of its response, in one of two fields. If it does not, there is the reason that
goes with the status, and then the body as it is.

An explanation may be missing in many ways: the body is no JSON, or its value is no object,
or it does not have the field, or the value of the field is no string. All of these come to
the same, as the field has no text then (`fieldText?`). An empty text is another matter. It
is asked for a text first and looked at afterwards, so an empty first field hides the second
one, and the reason of the status is shown although the server has sent a better one.

So the sources come in the order of `explanations`, and the first one with a text in it is
shown, unless the first field is empty. Then both fields are passed over.

## Main definitions

* `Client.fieldText?`: The text of a field of a body.
* `Client.explanations`: What may explain a refusal, the first thing first.
* `Client.firstGiven`: The first text that is not empty.

## Theorems

* `Status.reason?_ne_empty`: No status has an empty reason.
* `Client.refusalReason_eq`: The message of a refusal.
* `Client.refused_with`: What every call comes to that is refused.
* `Client.not_every_explanation_shown`: An explanation that is lost.
-/

namespace WikiSync

/-- The reason of a status is never empty. -/
theorem Status.reason?_ne_empty (status : Nat) : Status.reason? status ≠ some "" := by
  intro h
  have hall : ∀ e ∈ Status.reasons, e.2 ≠ "" := by decide
  rcases List.lookup_eq_some_iff.1 h with ⟨before, after, heq, -⟩
  have hmem : (status, "") ∈ Status.reasons := by
    rw [heq]
    exact List.mem_append_right _ List.mem_cons_self
  exact hall _ hmem rfl

namespace Client

/-! ### Sources -/

/-- The text of a field of a JSON body. There is none if the body is no JSON that can be
held in memory, if its value is no object with this field, or if the value of the field is
no string. -/
def fieldText? (body key : String) : Option String := do
  let v ← JsonValue.read? body
  if v.isProper then (v.get? key).bind JsonValue.text? else none

/-- What may explain a refusal with a body and a reason of the status. -/
def explanations (body : String) (reason : Option String) : List (Option String) :=
  [fieldText? body "message", fieldText? body "reason", reason,
    some (String.ofList (Text.trim body.toList))]

/-- The first text that is not empty. -/
def firstGiven (sources : List (Option String)) : Option String :=
  sources.findSome? (Option.filter (· != ""))

theorem firstGiven_none (sources : List (Option String)) :
    firstGiven (none :: sources) = firstGiven sources := rfl

theorem firstGiven_empty (sources : List (Option String)) :
    firstGiven (some "" :: sources) = firstGiven sources := rfl

theorem firstGiven_some {text : String} (h : text ≠ "") (sources : List (Option String)) :
    firstGiven (some text :: sources) = some text := by
  have hkept : (some text).filter (· != "") = some text :=
    Option.filter_eq_some_iff.2 ⟨rfl, bne_iff_ne.2 h⟩
  rw [firstGiven, List.findSome?_cons, hkept]

/-- The last source is shown even if it is empty. -/
theorem firstGiven_last (text : String) : (firstGiven [some text]).getD "" = text := by
  by_cases h : text = ""
  · rw [h]
    rfl
  · rw [firstGiven_some h, Option.getD_some]

/-! ### The message of a refusal -/

theorem jsonReason?_eq (body : String) :
    jsonReason? body = (fieldText? body "message").or (fieldText? body "reason") := by
  unfold jsonReason? fieldText?
  rcases JsonValue.read? body with _ | v
  · rfl
  · simp only [Option.bind_eq_bind, Option.bind_some]
    split
    · rw [List.findSome?_cons]
      rcases (v.get? "message").bind JsonValue.text? with _ | message
      · rw [List.findSome?_cons, Option.none_or]
        rcases (v.get? "reason").bind JsonValue.text? with _ | reason
        · rfl
        · rfl
      · rfl
    · rfl

/-- Without an explanation in a field, the reason of the status is shown, and then the
body. -/
theorem refusalReason_of_none {body : String} {reason : Option String} (hreason : reason ≠ some "")
    (h : (jsonReason? body).filter (· != "") = none) :
    refusalReason body reason = (firstGiven ((explanations body reason).drop 2)).getD "" := by
  unfold refusalReason explanations
  rw [h]
  rcases reason with _ | reason
  · exact (firstGiven_last _).symm
  · have hgiven : reason ≠ "" := fun heq => hreason (congrArg some heq)
    rw [List.drop_succ_cons, List.drop_succ_cons, List.drop_zero, firstGiven_some hgiven,
      Option.getD_some]

theorem refusalReason_of_some {body : String} {reason : Option String} {text : String}
    (h : jsonReason? body = some text) (htext : text ≠ "") : refusalReason body reason = text := by
  have hkept : (some text).filter (· != "") = some text :=
    Option.filter_eq_some_iff.2 ⟨rfl, bne_iff_ne.2 htext⟩
  unfold refusalReason
  rw [h, hkept]

/-- The message is the first explanation that is not empty, unless the first field is: then
the second one does not count either. -/
theorem refusalReason_eq (body : String) {reason : Option String} (hreason : reason ≠ some "") :
    refusalReason body reason =
      (firstGiven (if fieldText? body "message" = some "" then (explanations body reason).drop 2
        else explanations body reason)).getD "" := by
  have hjson := jsonReason?_eq body
  have hexplanations : explanations body reason = fieldText? body "message" ::
      fieldText? body "reason" :: (explanations body reason).drop 2 := rfl
  rcases hmessage : fieldText? body "message" with _ | message
  · -- The second field decides.
    rw [if_neg (by simp), hexplanations, hmessage, firstGiven_none]
    rw [hmessage, Option.none_or] at hjson
    rcases hsecond : fieldText? body "reason" with _ | second
    · rw [hsecond] at hjson
      rw [firstGiven_none]
      exact refusalReason_of_none hreason (by rw [hjson]; rfl)
    · rw [hsecond] at hjson
      by_cases hempty : second = ""
      · subst hempty
        rw [firstGiven_empty]
        exact refusalReason_of_none hreason (by rw [hjson]; rfl)
      · rw [firstGiven_some hempty, Option.getD_some]
        exact refusalReason_of_some hjson hempty
  · rw [hmessage, Option.some_or] at hjson
    by_cases hempty : message = ""
    · subst hempty
      rw [if_pos rfl]
      exact refusalReason_of_none hreason (by rw [hjson]; rfl)
    · have hne : some message ≠ some "" := fun heq => hempty (Option.some.inj heq)
      rw [if_neg hne, hexplanations, hmessage, firstGiven_some hempty, Option.getD_some]
      exact refusalReason_of_some hjson hempty

/-! ### Refused calls -/

theorem decode_of_error {r : WebResponse} (hr : r.isError = true) (call : StoreCall) :
    decode r call =
      .error (.refused r.status (refusalReason r.errorText (Status.reason? r.status))) := by
  have hjson : jsonOf r =
      .error (.refused r.status (refusalReason r.errorText (Status.reason? r.status))) := by
    rw [jsonOf, if_pos hr]
  have hrecord {α : Type} (f : JsonValue → Option α) : record f r =
      .error (.refused r.status (refusalReason r.errorText (Status.reason? r.status))) := by
    rw [record, hjson]
  cases call with
  | getPage pageId => exact hrecord _
  | findPage space title => exact hrecord _
  | createPage space title markup parent => exact hrecord _
  | updatePage pageId title markup base => exact hrecord _
  | listAttachments pageId => exact hrecord _
  | upload pageId a => rw [decode, uploaded, hrecord]
  | replace pageId attachmentId a => rw [decode, uploaded, hrecord]

/-- Every call is refused with the status of the response and a message. The message is the
first of these that is not empty: the text of the field `message` of the body, that of the
field `reason`, the reason of the status, and the body without the blanks around it. Only if
the first field is there and empty, the second one is passed over with it. -/
theorem refused_with {r : WebResponse} (hr : r.isError = true) (call : StoreCall) :
    let sources := explanations r.errorText (Status.reason? r.status)
    ∃ message, decode r call = .error (.refused r.status message) ∧
      (fieldText? r.errorText "message" ≠ some "" ∨
          (fieldText? r.errorText "reason").getD "" = "" →
        message = (firstGiven sources).getD "") ∧
      (fieldText? r.errorText "message" = some "" →
        message = (firstGiven (sources.drop 2)).getD "") := by
  intro sources
  refine ⟨_, decode_of_error hr call, fun h => ?_, fun h => ?_⟩
  · rw [refusalReason_eq _ (Status.reason?_ne_empty r.status)]
    by_cases hmessage : fieldText? r.errorText "message" = some ""
    · -- Nothing is lost where the second field has no text.
      have hsecond := h.resolve_left (not_not_intro hmessage)
      have hsources : sources = some "" :: fieldText? r.errorText "reason" :: sources.drop 2 := by
        rw [← hmessage]
        rfl
      rw [if_pos hmessage, hsources, firstGiven_empty]
      rcases hreason : fieldText? r.errorText "reason" with _ | second
      · rfl
      · rw [hreason, Option.getD_some] at hsecond
        rw [hsecond]
        rfl
    · rw [if_neg hmessage]
  · rw [refusalReason_eq _ (Status.reason?_ne_empty r.status), if_pos h]

/-- A refusal with a body. -/
def refusal (status : Nat) (body : String) : WebResponse :=
  ⟨status, .ok (Text.utf8 body)⟩

/-- An explanation in the second field, with no other field and beside an empty one. -/
def explained : String := "\x7b\"reason\":\"Title taken\"\x7d"

@[inherit_doc explained]
def hidden : String := "\x7b\"message\":\"\",\"reason\":\"Title taken\"\x7d"

/-- The explanation is shown if there is no other field, and it is not beside an empty one. -/
theorem refused_with_reason :
    (refusal 400 explained).isError = true ∧
      fieldText? (refusal 400 explained).errorText "message" = none ∧
      decode (refusal 400 explained) (.getPage "42") = .error (.refused 400 "Title taken") ∧
      (refusal 400 hidden).isError = true ∧
      fieldText? (refusal 400 hidden).errorText "message" = some "" ∧
      decode (refusal 400 hidden) (.getPage "42") = .error (.refused 400 "Bad Request") := by
  have hnone : fieldText? (refusal 400 explained).errorText "message" = none := by
    decide +kernel
  have hempty : fieldText? (refusal 400 hidden).errorText "message" = some "" := by
    decide +kernel
  have hshown : (firstGiven (explanations (refusal 400 explained).errorText
      (Status.reason? 400))).getD "" = "Title taken" := by decide +kernel
  have hlost : (firstGiven ((explanations (refusal 400 hidden).errorText
      (Status.reason? 400)).drop 2)).getD "" = "Bad Request" := by decide +kernel
  rcases refused_with (r := refusal 400 explained) rfl (.getPage "42") with
    ⟨message, hdecode, hfirst, -⟩
  rcases refused_with (r := refusal 400 hidden) rfl (.getPage "42") with
    ⟨message', hdecode', -, hrest⟩
  have hsources := hfirst (Or.inl (by rw [hnone]; exact nofun))
  refine ⟨rfl, hnone, ?_, rfl, hempty, ?_⟩
  · rw [hdecode, hsources.trans hshown]
    rfl
  · rw [hdecode', (hrest hempty).trans hlost]
    rfl

/-- Not every explanation is shown. Beside an empty field it gives way to the reason of the
status. -/
theorem not_every_explanation_shown :
    ¬ ∀ (r : WebResponse) (call : StoreCall), r.isError = true →
      decode r call = .error (.refused r.status
        ((firstGiven (explanations r.errorText (Status.reason? r.status))).getD "")) := by
  intro h
  have hshown := h (refusal 400 hidden) (.getPage "42") rfl
  rw [decode_of_error rfl] at hshown
  have hmessage := (StoreError.refused.inj (Except.error.inj hshown)).2
  revert hmessage
  decide +kernel

end Client

end WikiSync
