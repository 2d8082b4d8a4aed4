import WikiSync.Proofs.Script.Interleaving
import WikiSync.Proofs.Sync.Calls

/-!
# What a Reconcile May Ask

Bounds on the calls of a reconcile, and of its parts, that hold whatever a
store answers. The attachments of a page are asked about under the id of that
page only. An update is about the page that the lookup found, and names the
version that the lookup read.

`reconcile_calls` says which calls are made in a run. The statements here are
about all runs at once. That makes them weaker, but they also apply to a store
that changes between two calls, and together with `Script.Asks.state` they show
what a store keeps during a run.

## Main definitions

* `StoreCall.BasedOn`: A call that updates nothing but a page that was found.

## Theorems

* `SyncTarget.asks_syncAttachments`: Attachments.
* `SyncTarget.asks_write`, `SyncTarget.asks_carryOut`: A reconcile after its
  lookup.
* `SyncTarget.next_reconcile`, `SyncTarget.asks_reconcile`: The whole of it.
-/

namespace WikiSync

/-- A call that updates nothing but the page that was found, on the basis of
the version that it was found with. -/
def StoreCall.BasedOn (found : Option Page) : StoreCall → Prop
  | updatePage pageId _ _ base => ∃ p, found = some p ∧ pageId = p.id ∧ base = p.version.number
  | _ => True

namespace SyncTarget

variable (t : SyncTarget) (file : String) (page : RenderedPage)

theorem asks_info_bind {β : Type} {P : StoreCall → Prop} (message : String)
    {f : Unit → StoreScript β} (hf : (f ()).run.Asks P) :
    (StoreScript.info message >>= f).run.Asks P :=
  Script.asks_bindExcept (x := StoreScript.info message) trivial fun _ => hf

theorem asks_ask_bind {β : Type} {P : StoreCall → Prop} {c : StoreCall}
    {f : c.Result → StoreScript β} (hc : P c) (hf : ∀ r, (f r).run.Asks P) :
    (c.ask >>= f).run.Asks P :=
  Script.asks_bindExcept (x := c.ask) ⟨hc, fun _ => trivial⟩ hf

/-- Putting attachments is about attachments. -/
theorem asks_putAttachments {P : StoreCall → Prop} (pageId : String)
    (hreplace : ∀ id a, P (.replace pageId id a)) (hupload : ∀ a, P (.upload pageId a))
    (known : List StoredAttachment) (entries : List (String × Attachment)) :
    (putAttachments pageId known entries).run.Asks P := by
  induction entries with
  | nil => trivial
  | cons entry rest ih =>
    rcases entry with ⟨filename, a⟩
    rw [putAttachments]
    split
    · exact asks_ask_bind (hreplace _ _) fun _ => asks_info_bind _ ih
    · exact asks_ask_bind (hupload _) fun _ => asks_info_bind _ ih

theorem asks_syncAttachments {P : StoreCall → Prop} (pageId : String)
    (hlist : P (.listAttachments pageId)) (hreplace : ∀ id a, P (.replace pageId id a))
    (hupload : ∀ a, P (.upload pageId a)) (attachments : SortedMap Attachment) :
    (syncAttachments pageId attachments).run.Asks P := by
  unfold syncAttachments
  split
  · trivial
  · exact asks_ask_bind hlist fun known =>
      asks_putAttachments pageId hreplace hupload known attachments.entries

/-- After a page is written, only its attachments are left to ask about. -/
theorem asks_after_write {P : StoreCall → Prop} (message pageId : String)
    (attachments : SortedMap Attachment) (o : SyncOutcome) (hlist : P (.listAttachments pageId))
    (hreplace : ∀ id a, P (.replace pageId id a)) (hupload : ∀ a, P (.upload pageId a)) :
    (do
      StoreScript.info message
      syncAttachments pageId attachments
      pure o : StoreScript SyncOutcome).run.Asks P :=
  asks_info_bind message <|
    Script.asks_bindExcept (asks_syncAttachments pageId hlist hreplace hupload attachments)
      fun _ => trivial

/-- Carrying out a reconcile writes the page, and then its attachments. -/
theorem asks_write {P : StoreCall → Prop} (found : Option Page) (hpage : P (t.mutation page found))
    (hlist : ∀ pageId, P (.listAttachments pageId))
    (hreplace : ∀ pageId id a, P (.replace pageId id a))
    (hupload : ∀ pageId a, P (.upload pageId a)) :
    (t.carryOut file page found).run.Asks P := by
  unfold carryOut
  rcases found with _ | remote
  · exact asks_ask_bind hpage fun created =>
      asks_after_write _ created.id _ _ (hlist _) (hreplace _) (hupload _)
  · simp only []
    generalize plan (some remote) page.markup = action
    by_cases haction : action = .skipped
    · rw [if_pos haction]
      exact asks_info_bind _ trivial
    · rw [if_neg haction]
      exact asks_ask_bind hpage fun updated =>
        asks_after_write _ updated.id _ _ (hlist _) (hreplace _) (hupload _)

/-- Carrying out a reconcile updates nothing but the page that was found. -/
theorem asks_carryOut (found : Option Page) :
    (t.carryOut file page found).run.Asks (StoreCall.BasedOn found) := by
  refine asks_write t file page found ?_ (fun _ => trivial) (fun _ _ _ => trivial)
    fun _ _ => trivial
  rcases found with _ | remote
  · trivial
  · exact ⟨remote, rfl, rfl, rfl⟩

/-- Foreseeing a reconcile asks nothing. -/
theorem asks_foresee {P : StoreCall → Prop} (found : Option Page) :
    (t.foresee file page found).run.Asks P := by
  unfold foresee
  refine asks_info_bind _ ?_
  rcases found with _ | remote
  · trivial
  · trivial

theorem asks_findExisting {P : StoreCall → Prop} (h : P (t.lookup page)) :
    (t.findExisting page).run.Asks P := by
  revert h
  unfold findExisting lookup
  rcases page.frontMatter.pageId with _ | pageId
  · exact fun h => ⟨h, fun _ => trivial⟩
  · exact fun h => asks_ask_bind h fun _ => trivial

/-- A reconcile looks the page up, writes it, and then its attachments. -/
theorem asks_reconcile {P : StoreCall → Prop} (hlookup : P (t.lookup page))
    (hpage : ∀ found, P (t.mutation page found))
    (hlist : ∀ pageId, P (.listAttachments pageId))
    (hreplace : ∀ pageId id a, P (.replace pageId id a))
    (hupload : ∀ pageId a, P (.upload pageId a)) :
    (t.reconcile file page).run.Asks P := by
  refine Script.asks_bindExcept (t.asks_findExisting page hlookup) fun found => ?_
  split
  · exact t.asks_foresee file page found
  · exact t.asks_write file page found (hpage found) hlist hreplace hupload

/-- A reconcile asks for a page first. What it may ask after that goes by the
answer. -/
theorem next_reconcile {q : StoreCall}
    {next : Except StoreError q.Result → Script Store (Except StoreError SyncOutcome)}
    (h : (t.reconcile file page).run.next? = some ⟨q, next⟩) :
    q = t.lookup page ∧
      ∀ a, (next a).Asks (StoreCall.BasedOn (Exchange.found? ⟨q, a⟩)) := by
  -- What follows the lookup, with whatever page it found.
  have hrest : ∀ found, (if t.dryRun then t.foresee file page found
      else t.carryOut file page found).run.Asks (StoreCall.BasedOn found) := by
    intro found
    split
    · exact asks_foresee t file page found
    · exact asks_carryOut t file page found
  revert h
  unfold reconcile findExisting lookup
  rcases page.frontMatter.pageId with _ | pageId
  · intro h
    cases h
    refine ⟨rfl, fun a => ?_⟩
    rcases a with e | found
    · trivial
    · exact hrest found
  · intro h
    cases h
    refine ⟨rfl, fun a => ?_⟩
    rcases a with e | p
    · trivial
    · exact hrest (some p)

end SyncTarget

end WikiSync
