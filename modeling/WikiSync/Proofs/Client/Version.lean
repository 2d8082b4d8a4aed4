import WikiSync.Proofs.Sync.DryRun
import WikiSync.Proofs.Sync.Asks
import WikiSync.Proofs.Script.Serve

/-!
# Versions Over the Web

What a wiki server is told about the version of a page that is updated. A reconcile
reads a page, and if its markup is outdated, it sends new content under the number
that follows the one it read. The server takes a number that is too low for a sign of
another writer, and refuses it.

The number that was read is whatever the server reported, and it is only known to be
below `2 ^ 32`. The sum is one of machine words, so the number that follows the last
one is zero. It is the only number that is not followed by a greater one.

The requests of a reconcile through a client are those of another script, which
answers its calls. `Script.filter_asked_serve` leads them back to the calls: a request
that puts something is made for an update, and for nothing else. So the statement
about calls is one about requests, and holds for every server.

## Main definitions

* `JsonValue.objectText`: A written object.
* `Client.submittedNumber`: The number that follows a version.
* `Client.putPage`: The request that puts new content under a number.
* `SyncTarget.outdated?`: The page that has to be updated.

## Theorems

* `JsonValue.written_ofFields`: How an object is written.
* `Version.ofJson?_number`: What a server can report.
* `Client.submittedNumber_eq`: The number that follows.
* `SyncTarget.updates_reconcile`: The updates of a reconcile.
* `Client.puts_serve`: The requests that put something.
* `Client.submitted_version`: The number that a server is told.
* `Client.not_every_version_greater`: It can be lower.
-/

namespace WikiSync

/-! ### Written objects -/

namespace JsonValue

/-- An object with written values. -/
def objectText (fields : List (String × List Char)) : List Char :=
  '{' :: commaSeparated (fields.map fun (key, v) => quoted key ++ ':' :: v) ++ ['}']

/-- The fields are sorted in, the last one first. -/
theorem written_ofFields (fields : List (String × JsonValue)) :
    written (ofFields fields) =
      objectText (fields.foldr (fun e es => insertEntry e.1 (written e.2) es) []) := by
  have hentries : writtenEntries (fields.map fun e => (some e.1, e.2)) =
      fields.foldr (fun e es => insertEntry e.1 (written e.2) es) [] := by
    induction fields with
    | nil => rw [List.map_nil, writtenEntries, List.foldr_nil]
    | cons e fields ih =>
      rw [List.map_cons, writtenEntries, ih, List.foldr_cons]
      simp only [writtenEntry, Option.getD_some]
  have hfields : ofFields fields = object (fields.map fun e => (some e.1, e.2)) := rfl
  rw [hfields, written, hentries, objectText]

end JsonValue

/-! ### The number -/

/-- A server reports the number of a version as it is, up to the last one. -/
theorem Version.ofJson?_number (number : Nat) :
    Version.ofJson? (.ofFields [("number", .ofNat number)]) =
      if number < wordSize 32 then some ⟨UInt32.ofNat number, none⟩ else none := by
  have hfields : JsonValue.fields? ["number", "message"]
      (.ofFields [("number", .ofNat number)]) = some [some (.ofNat number), none] := rfl
  rw [Version.ofJson?, hfields]
  simp only [Option.bind_eq_bind, Option.bind_some, JsonValue.required, JsonValue.nullable,
    JsonValue.ofNat, JsonValue.natural?, Bool.not_false, Bool.true_and,
    decide_eq_true_eq]
  split
  · rfl
  · rfl

namespace Client

open JsonValue (quoted objectText written insertEntry)

/-- The number that follows a version. -/
def submittedNumber (base : UInt32) : Nat :=
  (base + 1).toNat

/-- Every number but the last is followed by the next. -/
theorem submittedNumber_eq (base : UInt32) :
    submittedNumber base = if base = 4294967295 then 0 else base.toNat + 1 := by
  have hsum : (base + 1).toNat = (base.toNat + 1) % 2 ^ 32 := UInt32.toNat_add base 1
  have hbound : base.toNat < 2 ^ 32 := base.toNat_lt
  have hlast : base = 4294967295 ↔ base.toNat = 4294967295 := UInt32.toNat_inj.symm
  rw [submittedNumber, hsum]
  split
  · next heq =>
    have hnumber := hlast.1 heq
    omega
  · next hne =>
    rw [hlast] at hne
    omega

/-- New content under a number, as it is written. -/
def updateText (title markup : String) (number : Nat) : List Char :=
  objectText [
    ("body", objectText [
      ("storage", objectText [("representation", quoted "storage"), ("value", quoted markup)])]),
    ("title", quoted title),
    ("type", quoted "page"),
    ("version", objectText [("number", (toString number).toList)])]

theorem written_newVersion (title markup : String) (base : UInt32) :
    written (newVersion title markup base) = updateText title markup (submittedNumber base) := by
  -- Only the keys decide about the order.
  have hvalue : ¬ "value" < "representation" := by decide
  have hbody : "body" < "version" := by decide
  have htitle : ¬ "title" < "body" ∧ "title" < "version" := by decide
  have htype : ¬ "type" < "body" ∧ ¬ "type" < "title" ∧ "type" < "version" := by decide
  simp only [newVersion, bodyJson, JsonValue.written_ofFields, List.foldr_cons, List.foldr_nil,
    insertEntry, hvalue, hbody, htitle, htype, if_true, if_false]
  simp only [JsonValue.ofText, JsonValue.ofNat, written, Option.getD_some,
    JsonValue.writtenNumber, updateText, submittedNumber, if_true, Bool.false_eq_true, if_false,
    List.nil_append, List.append_nil]

example : String.ofList (updateText "Guide" "<p>Hi</p>" 8) =
    "\x7b\"body\":\x7b\"storage\":\x7b\"representation\":\"storage\"," ++
      "\"value\":\"<p>Hi</p>\"\x7d\x7d,\"title\":\"Guide\",\"type\":\"page\"," ++
      "\"version\":\x7b\"number\":8\x7d\x7d" := by decide

/-- The request that puts new content under a number. -/
def putPage (c : Client) (pageId title markup : String) (number : Nat) : WebRequest :=
  ⟨.put, c.contentUrl pageId, [("authorization", c.authorization),
    ("content-type", "application/json"), ("accept", "application/json")],
    Text.utf8 (String.ofList (updateText title markup number))⟩

theorem request_updatePage (c : Client) (boundary pageId title markup : String) (base : UInt32) :
    c.request boundary (.updatePage pageId title markup base) =
      c.putPage pageId title markup (submittedNumber base) := by
  change c.submit .put (c.contentUrl pageId) (newVersion title markup base) = _
  rw [submit, putPage, JsonValue.write, written_newVersion]

end Client

/-! ### Updates of a reconcile -/

/-- Whether a call gives a page new content. -/
def StoreCall.isUpdate : StoreCall → Bool
  | updatePage _ _ _ _ => true
  | _ => false

theorem Exchange.found?_error (c : StoreCall) (e : StoreError) :
    Exchange.found? ⟨c, .error e⟩ = none := by
  cases c <;> rfl

namespace SyncTarget

variable {σ : Type} (m : Machine Store σ) (t : SyncTarget) (file : String) (page : RenderedPage)

/-- The page that a store answers with when a document is looked up. -/
def foundOn (s : σ) : Option Page :=
  Exchange.found? ⟨t.lookup page, (m.answer (t.lookup page) s).1⟩

/-- The page that has to be updated, if it was found and is outdated. -/
def outdated? (found : Option Page) : Option Page :=
  if t.dryRun || page.isCurrent found then none else found

/-- The update of a page. -/
def updateCall (p : Page) : StoreCall :=
  .updatePage p.id page.title page.markup p.version.number

theorem no_updates {α : Type} {x : Script Store α}
    (hx : x.Asks fun c : StoreCall => c.isUpdate = false) (s : σ) :
    (x.run m s).asked.filter StoreCall.isUpdate = [] :=
  List.filter_eq_nil_iff.2 fun c hc => by simp [hx.asked m s c hc]

/-- What follows the lookup updates the page that was found, if it is outdated. -/
theorem updates_carryOut (found : Option Page) (s : σ) :
    ((t.carryOut file page found).run.run m s).asked.filter StoreCall.isUpdate =
      (if page.isCurrent found then none else found).toList.map (updateCall page) := by
  rcases found with _ | remote
  · -- A page is created instead.
    rw [no_updates m (t.asks_write file page none rfl (fun _ => rfl) (fun _ _ _ => rfl)
      fun _ _ => rfl), ite_self]
    rfl
  · unfold carryOut
    by_cases hcurrent : page.isCurrent (some remote)
    · have hplan := (plan_eq_skipped_iff (some remote) page.markup).2 hcurrent
      simp only [hplan, hcurrent, if_true]
      exact no_updates m (asks_info_bind _ (Script.asks_pure _)) s
    · have hplan : plan (some remote) page.markup ≠ .skipped :=
        fun h => hcurrent ((plan_eq_skipped_iff (some remote) page.markup).1 h)
      simp only [hplan, hcurrent, if_false]
      rw [StoreScript.run_ask_bind]
      rcases m.answer (.updatePage remote.id page.title page.markup remote.version.number) s with
        ⟨answer, s'⟩
      rcases answer with e | updated
      · rfl
      · -- The attachments follow, and they are no pages.
        have hafter := no_updates m (asks_after_write ("Updated: " ++ page.title) updated.id
          page.attachments (t.outcome file page updated (plan (some remote) page.markup)) rfl
          (fun _ _ => rfl) fun _ => rfl) s'
        simp only [Run.follow]
        rw [List.filter_append, hafter]
        rfl

/-- The updates of a reconcile: that of the page that was found, if it is outdated. -/
theorem updates_reconcile (s : σ) :
    ((t.reconcile file page).run.run m s).asked.filter StoreCall.isUpdate =
      (t.outdated? page (t.foundOn m page s)).toList.map (updateCall page) := by
  have hlookup : [t.lookup page].filter StoreCall.isUpdate = [] := by
    unfold lookup
    split
    · rfl
    · rfl
  unfold outdated?
  rcases hdry : t.dryRun
  · rcases run_findExisting m t page s with ⟨hstate, hvalue⟩
    have hasked : ((t.findExisting page).run.run m s).asked = [t.lookup page] := by
      rw [Script.asked_eq_exchanges, exchanges_findExisting]
      rfl
    unfold reconcile foundOn
    simp only [hdry, Bool.false_eq_true, if_false, Bool.false_or]
    rw [Script.run_bindExcept, hvalue]
    rcases (m.answer (t.lookup page) s).1 with e | r
    · -- Without an answer nothing is found, and nothing follows.
      rw [Exchange.found?_error]
      simp only [Except.map, Run.follow, hasked, List.append_nil, hlookup, ite_self]
      rfl
    · simp only [Except.map, Run.follow, hasked, List.filter_append, hlookup, updates_carryOut]
      rfl
  · rw [((t.asksOnce_reconcile file page hdry).asked m s).1, hlookup]
    rfl

end SyncTarget

/-! ### Requests -/

namespace Client

/-- Whether a request puts something in the place of something else. -/
def isPut (r : WebRequest) : Bool :=
  r.method == .put

theorem isPut_request (c : Client) (boundary : String) (call : StoreCall) :
    isPut (c.request boundary call) = call.isUpdate := by
  cases call <;> rfl

/-- The requests that put something are those of the updates. -/
theorem puts_serve {τ α : Type} (c : Client) (n : Machine Web τ) (x : Script Store α) (sent : Nat)
    (w : τ) :
    ((x.serve c.answer sent).run n w).asked.filter isPut =
      ((x.run (n.serving c.answer) (w, sent)).asked.filter StoreCall.isUpdate).map
        (c.request "") := by
  refine Script.filter_asked_serve n c.answer (c.request "") (fun call k w' => ?_) x sent w
  rw [c.asked_answer n call k w', List.filter_cons, isPut_request]
  cases call <;> rfl

/-- What a server is told about versions. An update is one request, with the number that
follows the base version. In a reconcile the only requests that put something are the
update of the page that was found, if it is outdated, and the base version is the one
that was reported with it. The number that follows is the next one, and so greater,
except for the last version: that one is followed by zero. -/
theorem submitted_version {τ : Type} (c : Client) (n : Machine Web τ) (sent : Nat) (w : τ) :
    (∀ pageId title markup base,
      ((c.answer (.updatePage pageId title markup base) sent).run n w).asked =
        [c.putPage pageId title markup (submittedNumber base)]) ∧
    (∀ (t : SyncTarget) (file : String) (page : RenderedPage),
      (((t.reconcile file page).run.serve c.answer sent).run n w).asked.filter isPut =
        (t.outdated? page (t.foundOn (n.serving c.answer) page (w, sent))).toList.map fun p =>
          c.putPage p.id page.title page.markup (submittedNumber p.version.number)) ∧
    (∀ base : UInt32,
      (submittedNumber base = base.toNat + 1 ↔ base ≠ 4294967295) ∧
      (base.toNat < submittedNumber base ↔ base ≠ 4294967295)) ∧
    submittedNumber 4294967295 = 0 := by
  refine ⟨fun pageId title markup base => ?_, fun t file page => ?_, fun base => ?_, by decide⟩
  · rw [c.asked_answer n _ sent w, request_updatePage]
  · rw [puts_serve, t.updates_reconcile, List.map_map]
    exact List.map_congr_left fun p _ => request_updatePage c "" p.id _ _ _
  · rw [submittedNumber_eq]
    by_cases hlast : base = 4294967295
    · subst hlast
      decide
    · simp only [hlast, if_false, not_false_eq_true, ne_eq, Nat.lt_succ_self, and_self]

/-! ### The last version -/

/-- A server that has one page, with a version. -/
def reporting (number : Nat) : Machine Web Unit where
  answer _ _ := (.ok ⟨200, .ok (Text.utf8 ("\x7b\"id\":\"42\",\"title\":\"Old\"," ++
    "\"version\":\x7b\"number\":" ++ toString number ++ "\x7d\x7d"))⟩, ())

/-- A client without an account. -/
def visitor : Client :=
  .new "https://wiki" "" "" fun _ => ""

/-- A version is not always followed by a greater one. The server reports the last
version, and what it is sent has the number zero. -/
theorem not_every_version_greater :
    ¬ ∀ (τ : Type) (c : Client) (n : Machine Web τ) (sent : Nat) (w : τ) (t : SyncTarget)
      (file : String) (page : RenderedPage),
        (((t.reconcile file page).run.serve c.answer sent).run n w).asked.filter isPut =
          (t.outdated? page (t.foundOn (n.serving c.answer) page (w, sent))).toList.map fun p =>
            c.putPage p.id page.title page.markup (p.version.number.toNat + 1) := by
  intro h
  have hlast := h Unit visitor (reporting 4294967295) 0 () SyncTarget.docs "guide.md"
    SyncTarget.retitled
  revert hlast
  decide +kernel

end Client

end WikiSync
