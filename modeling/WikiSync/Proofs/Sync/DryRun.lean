import Mathlib.Data.List.Basic
import WikiSync.Client.Calls
import WikiSync.Proofs.Script.Once
import WikiSync.Proofs.Script.Yields
import WikiSync.Proofs.Sync.Again

/-!
# Dry Runs

What a dry run of a document foresees, and what it does not do. It asks a store
for the page of the document, and that is all it asks, so it changes nothing. It
reports the action that the answer calls for. A run that is not dry asks the same
question first, and if it starts from the same store it gets the same answer;
both decide by that answer alone. So the actions agree whenever the other run
has one to report.

The two runs take different branches after the lookup, and only the decision is
shared. `foreseen` is the outcome of the one branch, and
`yields_carryOut_action` is the bound on the other one, whatever the store
answers from there on. The id of a page is not foreseen on every store, because
a store may answer an update with any page. A store in memory answers with the
page that was updated.

## Main definitions

* `SyncTarget.foreseen`: The outcome of a dry run.

## Theorems

* `SyncTarget.asksOnce_reconcile`: A dry run asks for the page only.
* `SyncTarget.value_reconcile_dry`: What it reports.
* `SyncTarget.yields_carryOut_action`: The decision is carried out.
* `SyncTarget.reconcile_foreseen`: A dry run beside the run it stands for.
-/

namespace WikiSync

namespace Client

/-- A call is answered by one request. -/
theorem asked_answer {τ : Type} (c : Client) (n : Machine Web τ) (call : StoreCall) (sent : Nat)
    (w : τ) : ((c.answer call sent).run n w).asked = [c.request (c.boundary sent) call] := by
  unfold answer WebRequest.send
  rw [Script.run_bind]
  simp only [Script.question, Script.run, Run.follow]
  rcases (n.answer (c.request (c.boundary sent) call) w).1 with reason | r
  · rfl
  · rfl

/-- A call that changes nothing is a request that only looks. -/
theorem method_request (c : Client) (boundary : String) {call : StoreCall}
    (h : call.isMutation = false) : (c.request boundary call).method = .get := by
  cases call with
  | getPage pageId => rfl
  | findPage space title => rfl
  | listAttachments pageId => rfl
  | createPage space title markup parent => cases h
  | updatePage pageId title markup base => cases h
  | upload pageId a => cases h
  | replace pageId attachmentId a => cases h

theorem url_request (c : Client) (boundary : String) (call : StoreCall) :
    (c.request boundary call).url = c.target call := by
  cases call <;> rfl

end Client

namespace SyncTarget

variable (t : SyncTarget) (file : String) (page : RenderedPage)

/-- The same target, with a run that is dry or not. -/
def withDryRun (dryRun : Bool) : SyncTarget :=
  { t with dryRun }

/-! ### The dry run -/

/-- The outcome of a dry run, by the page that was found. -/
def foreseen (found : Option Page) : SyncOutcome :=
  match found with
  | some remote => t.outcome file page remote (plan found page.markup)
  | none => ⟨file, page.title, unknownPageId, "", plan found page.markup⟩

theorem foreseen_action (found : Option Page) :
    (t.foreseen file page found).action = plan found page.markup := by
  rcases found with _ | remote
  · rfl
  · rfl

theorem plan_eq_created_iff (found : Option Page) (markup : String) :
    plan found markup = .created ↔ found = none := by
  rcases found with _ | p
  · simp only [plan]
  · rw [plan_some]
    split
    · simp only [reduceCtorEq]
    · simp only [reduceCtorEq]

theorem run_foresee {σ : Type} (m : Machine Store σ) (found : Option Page) (s : σ) :
    (t.foresee file page found).run.run m s =
      ⟨.ok (t.foreseen file page found), s,
        [.info ("[dry run] Would " ++ (plan found page.markup).verb ++ ": " ++ page.title)],
        []⟩ := by
  unfold foresee foreseen
  rw [StoreScript.run_info_bind]
  rcases found with _ | remote
  · rfl
  · rfl

/-- A dry run asks for the page only. -/
theorem asksOnce_reconcile (ht : t.dryRun = true) :
    (t.reconcile file page).run.AsksOnce (t.lookup page) := by
  -- What follows the lookup asks nothing, with whatever page it found.
  have hrest : ∀ found, (if t.dryRun then t.foresee file page found
      else t.carryOut file page found).run.Asks fun _ => False := by
    intro found
    rw [if_pos ht]
    exact t.asks_foresee file page found
  unfold reconcile findExisting lookup
  rcases page.frontMatter.pageId with _ | pageId
  · refine ⟨_, rfl, fun a => ?_⟩
    rcases a with e | found
    · trivial
    · exact hrest found
  · refine ⟨_, rfl, fun a => ?_⟩
    rcases a with e | p
    · trivial
    · exact hrest (some p)

/-- A dry run reports what it foresees, unless the lookup fails. -/
theorem value_reconcile_dry (ht : t.dryRun = true) {σ : Type} (m : Machine Store σ) (s : σ) :
    ((t.reconcile file page).run.run m s).value =
      ((t.findExisting page).run.run m s).value.map (t.foreseen file page) := by
  unfold reconcile
  simp only [ht, if_true]
  rw [Script.run_bindExcept]
  rcases ((t.findExisting page).run.run m s).value with e | found
  · rfl
  · simp only [Except.map, Run.follow, run_foresee]

/-- On a store in memory, which stays as it is. -/
theorem run_reconcile_dry (ht : t.dryRun = true) (s : MemoryStore) :
    ((t.reconcile file page).run.run MemoryStore.machine s).value =
        (t.existing page s).map (t.foreseen file page) ∧
      ((t.reconcile file page).run.run MemoryStore.machine s).state = s := by
  have hlookup := t.run_findExisting_memory page s
  constructor
  · rw [t.value_reconcile_dry file page ht, hlookup]
  · rw [((t.asksOnce_reconcile file page ht).asked MemoryStore.machine s).2,
      ← (run_findExisting MemoryStore.machine t page s).1, hlookup]

/-! ### The run that is not dry -/

/-- Carrying out a reconcile reports the decision, if it reports anything. -/
theorem yields_carryOut_action (found : Option Page) :
    (t.carryOut file page found).run.Yields
      (IfOk fun o => o.action = plan found page.markup) := by
  unfold carryOut
  rcases found with _ | remote
  · exact Script.yields_bindExcept fun _ => Script.yields_bindExcept fun _ =>
      Script.yields_bindExcept fun _ => rfl
  · simp only []
    generalize plan (some remote) page.markup = action
    by_cases haction : action = .skipped
    · rw [if_pos haction]
      exact Script.yields_bindExcept fun _ => rfl
    · rw [if_neg haction]
      exact Script.yields_bindExcept fun _ => Script.yields_bindExcept fun _ =>
        Script.yields_bindExcept fun _ => rfl

/-- A run that succeeds has looked up the page and decided by it. -/
theorem action_of_reconcile (ht : t.dryRun = false) {σ : Type} (m : Machine Store σ) {s : σ}
    {o : SyncOutcome} (h : ((t.reconcile file page).run.run m s).value = .ok o) :
    ∃ found, ((t.findExisting page).run.run m s).value = .ok found ∧
      o.action = plan found page.markup := by
  unfold reconcile at h
  simp only [ht, Bool.false_eq_true, if_false] at h
  rw [Script.run_bindExcept] at h
  rcases hfound : ((t.findExisting page).run.run m s).value with e | found
  · rw [hfound] at h
    cases h
  · rw [hfound] at h
    simp only [Run.follow] at h
    have haction := (t.yields_carryOut_action file page found).run m
      ((t.findExisting page).run.run m s).state
    rw [h] at haction
    exact ⟨found, rfl, haction⟩

/-- On a store in memory, the page that was found is the page in the outcome. -/
theorem pageId_of_carried {s s' : MemoryStore} {found : Option Page} {o : SyncOutcome}
    (h : Carried t file page s found o s') {p : Page} (hfound : found = some p) :
    o.pageId = p.id := by
  cases h with
  | skipped q hsame =>
    cases hfound
    rfl
  | updated q old _ hother hold hpages hunreadable =>
    cases hfound
    rfl
  | created _ hpages hunreadable => cases hfound

/-! ### Both -/

/-- A dry run of a document on any store asks for its page and nothing else,
which changes no store. If the lookup fails, so does the dry run. If not, it
reports an action, and a run from the same store that is not dry reports the same
action if it succeeds. A page that is to be created has the id `new` and no
address; a page that a store in memory has keeps its id. On a web client the dry
run is one request, which only looks. -/
theorem reconcile_foreseen :
    let dry := ((t.withDryRun true).reconcile file page).run
    let real := ((t.withDryRun false).reconcile file page).run
    (∀ {σ : Type} (m : Machine Store σ) (s : σ),
      (dry.run m s).asked = [t.lookup page] ∧ (t.lookup page).isMutation = false ∧
      (∀ e, (m.answer (t.lookup page) s).1 = .error e → (dry.run m s).value = .error e) ∧
      ∀ r, (m.answer (t.lookup page) s).1 = .ok r →
        ∃ o, (dry.run m s).value = .ok o ∧
          (o.action = .created → o.pageId = "new" ∧ o.url = "") ∧
          ∀ o', (real.run m s).value = .ok o' → o'.action = o.action) ∧
    (∀ (s : MemoryStore) (o o' : SyncOutcome), (dry.run MemoryStore.machine s).value = .ok o →
      (real.run MemoryStore.machine s).value = .ok o' → o.action ≠ .created →
        o'.pageId = o.pageId) ∧
    ∀ {τ : Type} (n : Machine Web τ) (c : Client) (sent : Nat) (w : τ),
      ∃ request : WebRequest, ((dry.serve c.answer sent).run n w).asked = [request] ∧
        request.method = .get ∧ request.url = c.target (t.lookup page) := by
  intro dry real
  have honce : dry.AsksOnce (t.lookup page) := (t.withDryRun true).asksOnce_reconcile file page rfl
  have hdry : ∀ {σ : Type} (m : Machine Store σ) (s : σ), (dry.run m s).value =
      ((t.findExisting page).run.run m s).value.map (t.foreseen file page) :=
    fun m s => (t.withDryRun true).value_reconcile_dry file page rfl m s
  refine ⟨fun {σ} m s => ⟨(honce.asked m s).1, t.isMutation_lookup page, ?_, ?_⟩, ?_, ?_⟩
  · intro e he
    rw [hdry m s, (run_findExisting m t page s).2, he]
    rfl
  · intro r hr
    have hfound := (run_findExisting m t page s).2
    rw [hr] at hfound
    refine ⟨_, (hdry m s).trans (congrArg (Except.map _) hfound), ?_, ?_⟩
    · intro hcreated
      rw [foreseen_action, plan_eq_created_iff] at hcreated
      rw [hcreated]
      exact ⟨rfl, rfl⟩
    · intro o' ho'
      -- Both runs got the same answer.
      rcases (t.withDryRun false).action_of_reconcile file page rfl m ho' with
        ⟨found, hfound', haction⟩
      cases hfound.symm.trans hfound'
      rw [foreseen_action]
      exact haction
  · intro s o o' ho ho' hexists
    rcases (t.withDryRun false).carried_of_reconcile file page rfl ho' with
      ⟨found, hfound, hcarried⟩
    have hlookup : ((t.findExisting page).run.run MemoryStore.machine s).value = .ok found :=
      (congrArg Run.value (t.run_findExisting_memory page s)).trans hfound
    rw [hdry, hlookup] at ho
    cases ho
    rcases found with _ | p
    · exact absurd rfl hexists
    · exact (t.withDryRun false).pageId_of_carried file page hcarried rfl
  · intro τ n c sent w
    refine ⟨_, (honce.asked_serve n sent w).trans (c.asked_answer n _ sent w), ?_, ?_⟩
    · exact c.method_request _ (t.isMutation_lookup page)
    · exact c.url_request _ _

/-- A page with an old title and other markup. The dry run says that it would be
updated, and the page has the same id after it was. -/
theorem reconcile_foreseen_retitled :
    ∃ o o', (((docs.withDryRun true).reconcile "guide.md" retitled).run.run MemoryStore.machine
        (oldTitle "<p>Draft</p>")).value = .ok o ∧
      (((docs.withDryRun false).reconcile "guide.md" retitled).run.run MemoryStore.machine
        (oldTitle "<p>Draft</p>")).value = .ok o' ∧
      o'.action = .updated ∧ o.action = .updated ∧ o'.pageId = "42" ∧ o.pageId = "42" := by
  rcases reconcile_foreseen docs "guide.md" retitled with ⟨hany, hmemory, -⟩
  rcases hany MemoryStore.machine (oldTitle "<p>Draft</p>") with ⟨-, -, -, hanswered⟩
  -- The lookup finds the page by its id.
  rcases hanswered (MemoryStore.buildPage "42" "DOCS" "Old" "<p>Draft</p>" 1 none) rfl with
    ⟨o, ho, -, hactions⟩
  have hreal : (((docs.withDryRun false).reconcile "guide.md" retitled).run.run
      MemoryStore.machine (oldTitle "<p>Draft</p>")).value =
        .ok ⟨"guide.md", "New", "42", "https://mock.atlassian.net/wiki/spaces/DOCS/pages/42",
          .updated⟩ := by decide +kernel
  have haction := hactions _ hreal
  have hid := hmemory _ _ _ ho hreal (by rw [← haction]; decide)
  exact ⟨o, _, ho, hreal, rfl, haction.symm, rfl, hid.symm⟩

end SyncTarget

end WikiSync
