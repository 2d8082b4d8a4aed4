import WikiSync.Proofs.Script.Interleaving
import WikiSync.Proofs.Store.Later
import WikiSync.Proofs.Sync.Stored

/-!
# Documents Synced at the Same Time

Any number of documents that are synced to one store at the same time, their
calls in any order. Between the lookup of a page and its update, others may
have changed the page, renamed it, or created further pages. What protects it
is its version: the update names the version that was looked up, and the store
refuses it if the page has another one by now.

The argument has two halves that know nothing of each other. On the side of
the documents, a reconcile asks for at most one update, and the update is about
the page that the lookup found; that is read off the script. On the side of the
store, a page with an old version is an old page, whoever made the calls in
between; `MemoryStore.Later` says so. `Underway` puts them together: each script
has not started yet, or has looked up a page in a store that the present one is
later than.

An update can also be refused because the page is locked. Then no update of it
ever succeeds, so its version is always the one that was looked up.

## Main definitions

* `FreshIds`, `VersionsBelowLast`: What is assumed of an interleaving.
* `SyncTarget.Underway`: The state of all documents.

## Theorems

* `SyncTarget.Underway.step`: One call, of whichever document.
* `SyncTarget.no_lost_update`: The updates of an interleaving.
-/

namespace WikiSync

section Interleavings

variable {ι : Type}

/-- No page that is created gets the id of a page at the start. -/
def FreshIds (start : MemoryStore) (es : List (Turn ι Store MemoryStore)) : Prop :=
  ∀ e ∈ es, ∀ space title markup parent,
    e.exchange.question = .createPage space title markup parent →
      start.pages.get? (e.before.nextId "") = none

/-- It is enough that no page at the start has an id that is still to be given
out. -/
theorem freshIds_of_unissued {α : Type} [DecidableEq ι] {start : MemoryStore}
    (h : ∀ n, start.issued ≤ n → start.pages.get? (MemoryStore.issuedId "" n) = none)
    (order : List ι) (runs : ι → Script Store α) :
    FreshIds start (interleave MemoryStore.machine order runs start) := by
  intro e he space title markup parent _
  rcases List.append_of_mem he with ⟨earlier, later, hsplit⟩
  -- Ids are counted up only.
  rcases interleave_induction MemoryStore.machine (fun _ => True)
      (fun _ _ s => start.issued ≤ s.issued)
      (fun _ _ e _ hle _ _ hanswer => by
        have hafter : (e.before.answer e.exchange.question).2 = e.after := congrArg Prod.snd hanswer
        exact Nat.le_trans hle (hafter ▸ (MemoryStore.answer_frame _ _).2.2))
      order [] runs start (Nat.le_refl _) (fun _ _ => trivial) hsplit with ⟨-, -, hle, -⟩
  exact h e.before.issued hle

/-- Every page has a version that another one can follow, before every call. -/
def VersionsBelowLast (es : List (Turn ι Store MemoryStore)) : Prop :=
  ∀ e ∈ es, e.before.VersionsBelowLast

end Interleavings

namespace SyncTarget

/-! ### All documents -/

section Underway

variable {ι : Type} (target : ι → SyncTarget) (file : ι → String) (page : ι → RenderedPage)

/-- The scripts that sync the documents. -/
def scripts (i : ι) : Script Store (Except StoreError SyncOutcome) :=
  ((target i).reconcile (file i) (page i)).run

/-- What is known about a document after its lookup: the lookup found what was
in the store then, and the rest of the script updates nothing else. -/
structure LookedUp (i : ι) (past : List (Turn ι Store MemoryStore))
    (rest : Script Store (Except StoreError SyncOutcome)) (l : Turn ι Store MemoryStore) :
    Prop where
  mem : l ∈ past
  name : l.name = i
  question : l.exchange.question = (target i).lookup (page i)
  stored : ∀ p, l.exchange.found? = some p → l.before.pages.get? p.id = some p
  rest : rest.Asks (StoreCall.BasedOn l.exchange.found?)

/-- The state of all documents, after some calls to a store. -/
structure Underway (start : MemoryStore) (past : List (Turn ι Store MemoryStore))
    (runs : ι → Script Store (Except StoreError SyncOutcome)) (s : MemoryStore) : Prop where
  keyed : s.Keyed
  grown : MemoryStore.Grown start s
  later : ∀ l ∈ past, MemoryStore.Later l.before s
  runs : ∀ i, runs i = scripts target file page i ∨
    ∃ l, LookedUp target page i past (runs i) l

variable {target file page}

/-- Nothing has happened yet. -/
theorem underway_start {start : MemoryStore} (h : start.Keyed) :
    Underway target file page start [] (scripts target file page) start :=
  ⟨h, MemoryStore.Grown.refl start, fun _ hl => absurd hl List.not_mem_nil, fun _ => Or.inl rfl⟩

variable [DecidableEq ι]

/-- One call, of whichever document. -/
theorem Underway.step {start : MemoryStore} {past : List (Turn ι Store MemoryStore)}
    {runs : ι → Script Store (Except StoreError SyncOutcome)} {e : Turn ι Store MemoryStore}
    {next : Except StoreError e.exchange.question.Result →
      Script Store (Except StoreError SyncOutcome)}
    (h : Underway target file page start past runs e.before)
    (hbelow : e.before.VersionsBelowLast)
    (hfresh : ∀ space title markup parent,
      e.exchange.question = .createPage space title markup parent →
        start.pages.get? (e.before.nextId "") = none)
    (hnext : (runs e.name).next? = some ⟨e.exchange.question, next⟩)
    (hanswer : MemoryStore.machine.answer e.exchange.question e.before =
      (e.exchange.answer, e.after)) :
    Underway target file page start (past ++ [e])
      (Function.update runs e.name (next e.exchange.answer)) e.after := by
  have hafter : e.after = (e.before.answer e.exchange.question).2 :=
    (congrArg Prod.snd hanswer).symm
  have hstep : MemoryStore.Later e.before e.after := by
    rw [hafter]
    exact MemoryStore.later_answer _ _ hbelow fun _ _ _ _ hc =>
      h.grown.missing_nextId (hfresh _ _ _ _ hc)
  refine ⟨?_, ?_, fun l hl => ?_, fun i => ?_⟩
  · rw [hafter]
    exact h.keyed.answer _
  · rw [hafter]
    exact h.grown.answer _
  · rcases List.mem_append.1 hl with hl | hl
    · exact (h.later l hl).trans hstep
    · rw [List.mem_singleton.1 hl]
      exact hstep
  · by_cases hi : i = e.name
    · -- The document whose turn it was.
      subst hi
      rw [Function.update_self]
      refine Or.inr ?_
      rcases h.runs e.name with hnew | ⟨l, hl⟩
      · -- It asked for its page.
        rw [hnew] at hnext
        rcases next_reconcile _ _ _ hnext with ⟨hlookup, hrest⟩
        refine ⟨e, List.mem_append_right _ (List.mem_singleton.2 rfl), rfl, hlookup,
          fun p hp => ((target e.name).get?_of_existing (page e.name) h.keyed ?_).1, hrest _⟩
        have hgiven : e.exchange = ⟨e.exchange.question,
            (e.before.answer e.exchange.question).1⟩ := by
          rw [show (e.before.answer e.exchange.question).1 = e.exchange.answer from
            congrArg Prod.fst hanswer]
        rw [hgiven, hlookup] at hp
        exact ((target e.name).found?_lookup (page e.name) e.before p).1 hp
      · exact ⟨l, List.mem_append_left _ hl.mem, hl.name, hl.question, hl.stored,
          (hl.rest.next hnext).2 _⟩
    · rw [Function.update_of_ne hi]
      refine (h.runs i).imp_right ?_
      rintro ⟨l, hl⟩
      exact ⟨l, List.mem_append_left _ hl.mem, hl.name, hl.question, hl.stored, hl.rest⟩

/-- Documents are synced to one store, their calls in any order. Whenever one of
them updates a page, it has looked that page up before. If the update succeeds,
the page has the title and the markup that the lookup read, and its version is
counted up by one. An update that is based on an older version than the current
one is refused as a conflict, and the store stays as it is. -/
theorem no_lost_update (target : ι → SyncTarget) (file : ι → String) (page : ι → RenderedPage)
    (order : List ι) (start : MemoryStore) (hkeyed : start.Keyed)
    (hfresh : FreshIds start
      (interleave MemoryStore.machine order (scripts target file page) start))
    (hbelow : VersionsBelowLast
      (interleave MemoryStore.machine order (scripts target file page) start))
    {earlier later : List (Turn ι Store MemoryStore)} {e : Turn ι Store MemoryStore}
    (hsplit : interleave MemoryStore.machine order (scripts target file page) start =
      earlier ++ e :: later)
    {pageId title markup : String} {base : UInt32}
    (hupdate : e.exchange.question = .updatePage pageId title markup base) :
    ∃ l ∈ earlier, ∃ read current : Page,
      l.name = e.name ∧ l.exchange.question = (target e.name).lookup (page e.name) ∧
      l.exchange.found? = some read ∧ read.id = pageId ∧ read.version.number = base ∧
      e.before.pages.get? pageId = some current ∧
      (e.exchange.failed = false →
        current.title = read.title ∧ current.markup = read.markup ∧
        ∃ new, e.after.pages.get? pageId = some new ∧
          new.version.number.toNat = current.version.number.toNat + 1) ∧
      (base < current.version.number →
        (∃ reason, e.exchange =
          ⟨.updatePage pageId title markup base, .error (.refused 409 reason)⟩) ∧
        e.after = e.before) := by
  have hmem : e ∈ interleave MemoryStore.machine order (scripts target file page) start := by
    rw [hsplit]
    exact List.mem_append_right _ List.mem_cons_self
  rcases interleave_induction MemoryStore.machine
      (fun e => e.before.VersionsBelowLast ∧ ∀ space title markup parent,
        e.exchange.question = .createPage space title markup parent →
          start.pages.get? (e.before.nextId "") = none)
      (Underway target file page start)
      (fun past runs e next hgood hboth hnext hanswer =>
        hgood.step hboth.1 hboth.2 hnext hanswer)
      order [] (scripts target file page) start (underway_start hkeyed)
      (fun e he => ⟨hbelow e he, hfresh e he⟩) hsplit with ⟨rest, next, hgood, hnext, hanswer⟩
  rcases e with ⟨name, before, ⟨question, answer⟩, after⟩
  cases hupdate
  change before.updatePage pageId title markup base = (answer, after) at hanswer
  rcases hgood.runs name with hnew | ⟨l, hl⟩
  · -- The first question of a document is no update.
    rw [hnew] at hnext
    have hlookup := (next_reconcile _ _ _ hnext).1
    unfold lookup at hlookup
    split at hlookup
    · cases hlookup
    · cases hlookup
  · rcases (hl.rest.next hnext).1 with ⟨read, hread, rfl, rfl⟩
    -- The page that was looked up has been in the store ever since.
    rcases (hgood.later l hl.mem).page read.id read (hl.stored read hread) with
      ⟨current, hcurrent, -, hsame, hlocked⟩
    refine ⟨l, hl.mem, read, current, hl.name, hl.question, hread, rfl, rfl, hcurrent, ?_, ?_⟩
    · intro hok
      rcases MemoryStore.updatePage_cases before read.id title markup read.version.number with
        ⟨old, -, hold, hversion, hresult⟩ | ⟨err, hresult⟩
      · -- The store took the update, so the version is still the one that was read.
        cases hold.symm.trans hcurrent
        cases hresult.symm.trans hanswer
        rw [hsame hversion]
        have hbound := (hbelow _ hmem) read.id current hcurrent
        exact ⟨rfl, rfl, _, SortedMap.get?_insert_self _ _ _,
          MemoryStore.toNat_version_updated (hsame hversion ▸ hbound) _ _ _⟩
      · cases hresult.symm.trans hanswer
        cases hok
    · intro holder
      have hstale : current.version.number ≠ read.version.number := fun heq =>
        UInt32.lt_irrefl _ (heq ▸ holder)
      -- A page that has changed since it was read is not locked.
      have hunlocked : before.locked.get? read.id = none := by
        rcases hget : l.before.locked.get? read.id with _ | status
        · rw [(hgood.later l hl.mem).locked]
          exact hget
        · have hunchanged := hlocked (by rw [hget]; exact Option.some_ne_none _)
          exact absurd (congrArg (fun p => p.version.number) hunchanged) hstale
      have hresult := MemoryStore.updatePage_stale before title markup hunlocked hcurrent hstale
      cases hresult.symm.trans hanswer
      exact ⟨⟨_, rfl⟩, rfl⟩

/-! ### Two documents for one page -/

/-- Two documents for one page, and a document for a new one. The first names
the page by its id and renames it, the second one names it by its title. -/
def rivals : Fin 3 → RenderedPage
  | 0 => ⟨"Manual", ⟨none, some "42", []⟩, "<p>A</p>", .empty⟩
  | 1 => ⟨"Guide", ⟨none, none, []⟩, "<p>B</p>", .empty⟩
  | 2 => ⟨"News", ⟨none, none, []⟩, "<p>C</p>", .empty⟩

/-- A store with the page of the first two. -/
def guideStore : MemoryStore :=
  MemoryStore.empty.withPage "42" "DOCS" "Guide" "<p>Old</p>"

/-- The documents look up their pages, and the second one updates last. -/
def rivalTurns : List (Turn (Fin 3) Store MemoryStore) :=
  interleave MemoryStore.machine [1, 0, 2, 0, 2, 1]
    (scripts (fun _ => docs) (fun _ => "guide.md") rivals) guideStore

/-- The update that comes last is refused, and nothing is lost. -/
theorem no_lost_update_rivals :
    guideStore.Keyed ∧ FreshIds guideStore rivalTurns ∧ VersionsBelowLast rivalTurns ∧
      ∃ earlier e, rivalTurns = earlier ++ [e] ∧
        (∃ reason, e.exchange =
          ⟨.updatePage "42" "Guide" "<p>B</p>" 1, .error (.refused 409 reason)⟩) ∧
        e.after = e.before := by
  have hkeyed : guideStore.Keyed := (MemoryStore.Built.empty.page _ _ _ _).keyed
  -- The turns are worked out once for everything that is read off them. At the
  -- last of them the page has its second version.
  have hturns : rivalTurns.getLast?.map (·.exchange.question) =
        some (.updatePage "42" "Guide" "<p>B</p>" 1) ∧
      (rivalTurns.getLast?.map fun e =>
        (e.before.pages.get? "42").map (·.version.number)) = some (some 2) ∧
      ∀ e ∈ rivalTurns, guideStore.pages.get? (e.before.nextId "") = none ∧
        ∀ entry ∈ e.before.pages.entries,
          entry.2.version.number.toNat < UInt32.size - 1 := by decide +kernel
  rcases hturns with ⟨hquestion, hversion, hall⟩
  have hfresh : FreshIds guideStore rivalTurns := fun e he _ _ _ _ _ => (hall e he).1
  have hbelow : VersionsBelowLast rivalTurns := fun e he id p hp =>
    (hall e he).2 (id, p) (SortedMap.mem_of_get? hp)
  rcases hlast : rivalTurns.getLast? with _ | e
  · rw [hlast] at hquestion
    cases hquestion
  · rw [hlast, Option.map_some, Option.some.injEq] at hquestion hversion
    have hsplit := (List.getLast?_eq_some_iff.1 hlast).choose_spec
    rcases no_lost_update (fun _ => docs) (fun _ => "guide.md") rivals [1, 0, 2, 0, 2, 1] guideStore
        hkeyed hfresh hbelow hsplit hquestion with
      ⟨-, -, -, current, -, -, -, -, -, hcurrent, -, hrefused⟩
    rw [hcurrent, Option.map_some, Option.some.injEq] at hversion
    have holder : (1 : UInt32) < current.version.number := by
      rw [hversion]
      decide
    exact ⟨hkeyed, hfresh, hbelow, _, e, hsplit, hrefused holder⟩

end Underway

end SyncTarget

end WikiSync
