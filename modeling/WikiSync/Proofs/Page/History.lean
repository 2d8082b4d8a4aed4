import WikiSync.Proofs.Diagram.Kroki
import WikiSync.Proofs.Diagram.Schedule
import WikiSync.Proofs.Page.Render

/-!
# A Diagram Server over Many Pages

One server is used for many pages, and it may change its mind between them. What it is asked
and what becomes of its answers is said here for every history: any sequence of questions about
its health, of images that are asked for by themselves and of pages that are rendered, with any
replies.

The health is what binds the operations together. The step is one operation, and its
description speaks of what is known about the health after it. That stays as it is from there
on, so all operations of a history are described by what is known in the end. This is what the
one reply to the one health request says.

Within an operation a request is never sent twice. So the replies to it may be taken as given
in advance, and what is true of rendering with given images holds although the server may
answer as it likes.

## Main definitions

* `renderPageIn`: Rendering a page, with a schedule for its diagrams.
* `Kroki.Operation`, `Kroki.history`: What is done with a server.
* `Kroki.PageProper`, `Kroki.Proper`: What operations do.

## Theorems

* `renderPageIn_inTurn`: Rendering in turn.
* `Kroki.pageProper_idle`, `Kroki.pageProper_busy`, `Kroki.proper_run`: One operation.
* `Kroki.history_proper`: All operations.
-/

namespace WikiSync

open Diagram

/-- Renders a Markdown text, with diagrams that come as a schedule says. -/
def renderPageIn (schedule : Schedule) (backend : String) (options : ConvertOptions)
    (text : String) (path : Option String) : Script Backend (Except PageError RenderedPage) :=
  let document := Document.read text path
  let order := schedule.places (sources document.tree).length
  let ctx := Context.ofFrontMatter options document.frontMatter
  pageAfter (attachInOrder order backend document.tree ctx) document

/-- Rendering in turn is rendering. -/
theorem renderPageIn_inTurn (backend : String) (options : ConvertOptions) (text : String)
    (path : Option String) :
    renderPageIn .inTurn backend options text path = renderPage backend options text path := by
  have hattach (tree : Node) (ctx : Context) :
      attachInOrder (List.range (sources tree).length) backend tree ctx =
        attach backend tree ctx := by
    rw [attach_eq, attachInOrder, attachBy, attachBy, renderInOrder_range]
  unfold renderPageIn
  simp only [Schedule.inTurn, hattach]
  rfl

theorem asksFresh_pageAfter
    {attached : Script Backend (Except Unavailable Context)} {past : Request → Prop}
    (h : attached.AsksFresh past) (document : Document) :
    (pageAfter attached document).AsksFresh past := by
  refine h.bind_silent fun outcome => ?_
  rcases outcome with e | ctx
  · exact Script.asks_pure _
  · exact Converter.asks_page .storage document ctx

/-- Rendering with given images, where there are diagrams to show. -/
theorem run_pageInOrder {σ : Type} {m : Machine Backend σ}
    {image : String → Except RenderError Bytes} (hm : RendersBy m image) {document : Document}
    {ctx : Context} {order : List Nat}
    (horder : order.Perm (List.range (sources document.tree).length)) (backend : String)
    (hbusy : ¬ (ctx.options.diagrams = false ∨ document.tree.diagrams = [])) (s : σ) :
    let r := (pageAfter (attachInOrder order backend document.tree ctx) document).run m s
    ((m.answer .available s).1 = false →
      r.asked = [.available] ∧ r.value = .error (.diagrams ⟨backend⟩)) ∧
    ((m.answer .available s).1 = true →
      ∃ texts : List String, texts.Perm (renderedTexts document.tree) ∧
        r.asked = .available :: texts.map .render ∧
        r.value = Converter.storage.pageOutcome document (attached image document.tree ctx)) := by
  intro r
  rcases run_attachBy backend document.tree ctx (run_renderInOrder hm horder) hbusy s with
    ⟨s', hattach⟩
  rcases run_pageAfter (m := m) (attachInOrder order backend document.tree ctx) document s with
    ⟨hasked, hvalue⟩
  change r.asked = _ at hasked
  change r.value = _ at hvalue
  rw [attachInOrder, hattach] at hasked hvalue
  refine ⟨fun hgone => ?_, fun hhere => ?_⟩
  · rw [hgone] at hasked hvalue
    exact ⟨hasked, hvalue⟩
  · rw [hhere] at hasked hvalue
    refine ⟨_, (perm_filterMap_places horder).map Source.text, ?_, hvalue⟩
    rw [List.map_map]
    exact hasked

namespace Diagram.Kroki

/-! ### Histories -/

/-- What is done with a server. -/
inductive Operation where
  | available
  | render (source : String)
  | page (schedule : Schedule) (options : ConvertOptions) (text : String) (path : Option String)

/-- What comes of an operation. -/
abbrev Operation.Result : Operation → Type
  | available => Bool
  | render _ => Except RenderError Bytes
  | page _ _ _ _ => Except PageError RenderedPage

/-- An operation that has been performed, with what was sent and what came back. -/
structure Performed where
  operation : Operation
  result : operation.Result
  exchanges : List (Exchange Web)

variable (k : Kroki)

/-- The script of an operation. -/
def Operation.script : (o : Operation) → Script Backend o.Result
  | available => Script.question (I := Backend) .available
  | render source => Script.question (I := Backend) (.render source)
  | page schedule options text path => renderPageIn schedule k.name options text path

/-- Operations one after the other. What is known about the health of the server goes from each
to the next one. -/
def history {τ : Type} (n : Machine Web τ) : List Operation → Option Bool → τ → List Performed
  | [], _, _ => []
  | o :: rest, health, w =>
    let x := (o.script k).serve k.answer health
    ⟨o, (x.run n w).value.1, x.exchanges n w⟩ ::
      history n rest (x.run n w).value.2 (x.run n w).state

/-! ### What operations do -/

/-- What rendering a page does, by what is known about the health in the end. Without diagrams
to show nothing is sent. If the server is not healthy, no image is asked for. Otherwise there is
one request for every file name of a diagram, and the page gets the images that are accepted. -/
inductive PageProper (known : Option Bool) (document : Document) (ctx : Context) :
    Except PageError RenderedPage → List (Exchange Web) → Prop
  | idle (hidle : ctx.options.diagrams = false ∨ document.tree.diagrams = []) :
    PageProper known document ctx (Converter.storage.pageOutcome document ctx) []
  | unavailable {es : List (Exchange Web)}
    (hbusy : ¬ (ctx.options.diagrams = false ∨ document.tree.diagrams = []))
    (hknown : known = some false) (hrenders : k.renders es = []) :
    PageProper known document ctx (.error (.diagrams ⟨k.url⟩)) es
  | available {es : List (Exchange Web)} {texts : List String} {reply : String → Reply}
    {attachments : SortedMap Attachment}
    (hbusy : ¬ (ctx.options.diagrams = false ∨ document.tree.diagrams = []))
    (hknown : known = some true) (hfirsts : Firsts document.tree.diagrams texts)
    (honce : ∀ name, (∃ text ∈ document.tree.diagrams, filename text = name) →
      ∃! text, text ∈ texts ∧ filename text = name)
    (hrenders : (k.renders es).Perm (texts.map fun text => ⟨k.renderRequest text, reply text⟩))
    (hattachments : ∀ name a, attachments.get? name = some a ↔
      ∃ text ∈ texts, filename text = name ∧
        ∃ data, Accepted (reply text) data ∧ a = ⟨name, data, "image/png"⟩) :
    PageProper known document ctx
      (Converter.storage.pageOutcome document { ctx with attachments }) es

/-- What an operation does, by what is known about the health in the end. -/
def Proper (known : Option Bool) : Performed → Prop
  | ⟨.available, healthy, es⟩ => known = some healthy ∧ k.renders es = []
  | ⟨.render source, result, es⟩ =>
    ∃ reply, es = [⟨k.renderRequest source, reply⟩] ∧
      ∀ data, result = .ok data ↔ Accepted reply data
  | ⟨.page _ options text path, result, es⟩ =>
    let document := Document.read text path
    k.PageProper known document (.ofFrontMatter options document.frontMatter) result es

variable {k}

/-- Descriptions stay, because what is known stays. -/
theorem PageProper.imp {known known' : Option Bool} {document : Document} {ctx : Context}
    {result : Except PageError RenderedPage} {es : List (Exchange Web)}
    (h : k.PageProper known document ctx result es)
    (hknown : ∀ b, known = some b → known' = some b) :
    k.PageProper known' document ctx result es := by
  cases h with
  | idle hidle => exact .idle hidle
  | unavailable hbusy hfalse hrenders => exact .unavailable hbusy (hknown _ hfalse) hrenders
  | available hbusy htrue hfirsts honce hrenders hattachments =>
    exact .available hbusy (hknown _ htrue) hfirsts honce hrenders hattachments

theorem Proper.imp {known known' : Option Bool} {p : Performed} (h : k.Proper known p)
    (hknown : ∀ b, known = some b → known' = some b) : k.Proper known' p := by
  rcases p with ⟨_ | source | ⟨schedule, options, text, path⟩, result, es⟩
  · exact ⟨hknown _ h.1, h.2⟩
  · exact h
  · exact PageProper.imp h hknown

/-! ### One operation -/

variable (k)

section

variable {τ : Type} (n : Machine Web τ) (health : Option Bool) (w : τ)

/-- Nothing is sent for a script that asks nothing. -/
theorem exchanges_serve_eq_nil {α : Type} {x : Script Backend α} (hx : x.Asks fun _ => False) :
    (x.serve k.answer health).exchanges n w = [] := by
  have hserve : (x.serve k.answer health).Asks fun _ => False :=
    Script.asks_serve hx (fun _ _ hfalse => hfalse.elim) health
  have hasked := Script.asked_of_asks_none n hserve w
  rw [Script.asked_eq_exchanges] at hasked
  exact List.map_eq_nil_iff.1 hasked

variable {document : Document} {ctx : Context} {order : List Nat}

/-- A page without diagrams to show. -/
theorem pageProper_idle (hidle : ctx.options.diagrams = false ∨ document.tree.diagrams = []) :
    let page := pageAfter (attachInOrder order k.name document.tree ctx) document
    let x := page.serve k.answer health
    k.PageProper (x.run n w).value.2 document ctx (x.run n w).value.1 (x.exchanges n w) := by
  intro page x
  have hpage : page = Converter.storage.page document ctx := by
    have hattach : attachInOrder order k.name document.tree ctx = pure (.ok ctx) :=
      attachBy_idle _ k.name hidle
    simp only [page, hattach]
    rfl
  have hexchanges : x.exchanges n w = [] := by
    refine k.exchanges_serve_eq_nil n health w ?_
    rw [hpage]
    exact Converter.asks_page .storage document ctx
  have hvalue : (x.run n w).value.1 = Converter.storage.pageOutcome document ctx := by
    rw [(Script.run_serve (I := Backend) n k.answer page health w).1, hpage]
    exact (Converter.run_page .storage document ctx _).1
  rw [hexchanges, hvalue]
  exact .idle hidle

/-- A page with diagrams. Its requests are all different, so the replies to them may be taken
as given, and then it is rendered with given images. -/
theorem pageProper_busy (hctx : ctx.attachments = .empty)
    (horder : order.Perm (List.range (sources document.tree).length))
    (hbusy : ¬ (ctx.options.diagrams = false ∨ document.tree.diagrams = [])) :
    let page := pageAfter (attachInOrder order k.name document.tree ctx) document
    let x := page.serve k.answer health
    k.PageProper (x.run n w).value.2 document ctx (x.run n w).value.1 (x.exchanges n w) := by
  intro page x
  have hfresh : page.AsksFresh fun _ => False :=
    asksFresh_pageAfter (asksFresh_attachInOrder horder k.name ctx) document
  rcases k.exists_given n hfresh health w with ⟨reply, hvalue, hknown, hrenders⟩
  rcases run_pageInOrder (k.rendersBy_given reply) horder k.name hbusy ((), health) with
    ⟨hgone, hhere⟩
  rw [k.available_given reply health] at hgone hhere
  change (x.run n w).value.1 = _ at hvalue
  rw [hvalue]
  rcases hhealth : health.getD (healthy (reply k.healthRequest)) with _ | _
  · -- The server is not healthy, and that is all that has been asked.
    rcases hgone hhealth with ⟨hasked, houtcome⟩
    have hsome := hknown (hasked ▸ List.mem_cons_self)
    have hnone : k.renders (x.exchanges n w) = [] := by
      rw [hrenders, hasked]
      rfl
    rw [hhealth] at hsome
    rw [houtcome]
    exact .unavailable hbusy hsome hnone
  · -- The texts come as the schedule has them, and the images are those of the first texts.
    rcases hhere hhealth with ⟨texts, htexts, hasked, houtcome⟩
    have hsome := hknown (hasked ▸ List.mem_cons_self)
    have hfirsts := firsts_renderedTexts document.tree
    have hperm : (k.renders (x.exchanges n w)).Perm ((renderedTexts document.tree).map
        fun text => ⟨k.renderRequest text, reply (k.renderRequest text)⟩) := by
      rw [hrenders, hasked, filter_asked_texts, List.map_map]
      exact htexts.map _
    have hattachments (name : String) (a : Attachment) :
        (attached (fun text => settle (reply (k.renderRequest text))) document.tree
          ctx).attachments.get? name = some a ↔
        ∃ text ∈ renderedTexts document.tree, filename text = name ∧
          ∃ data, Accepted (reply (k.renderRequest text)) data ∧
            a = ⟨name, data, "image/png"⟩ := by
      simp only [get?_attached_of_empty hctx, settle_eq_ok_iff]
    rw [hhealth] at hsome
    rw [houtcome, attached_eq]
    exact .available hbusy hsome hfirsts (fun _ => hfirsts.existsUnique) hperm hattachments

/-- Any operation. -/
theorem proper_run (o : Operation) :
    let x := (o.script k).serve k.answer health
    k.Probed health (k.probes (x.exchanges n w)) (x.run n w).value.2 ∧
      k.Proper (x.run n w).value.2 ⟨o, (x.run n w).value.1, x.exchanges n w⟩ := by
  intro x
  refine ⟨k.probed_serve n _ health w, ?_⟩
  cases o with
  | available =>
    have hx : x = k.answer .available health :=
      Script.serve_question (I := Backend) k.answer .available health
    rw [hx]
    rcases health with _ | b
    · rcases k.run_answer_available n w with ⟨hvalue, hexchanges⟩
      rw [hvalue, hexchanges]
      refine ⟨rfl, ?_⟩
      simp [renders]
    · exact ⟨rfl, rfl⟩
  | render source =>
    have hx : x = k.answer (.render source) health :=
      Script.serve_question (I := Backend) k.answer (.render source) health
    rcases k.run_answer_render n w source health with ⟨hvalue, hexchanges⟩
    rw [hx, hvalue, hexchanges]
    exact ⟨_, rfl, fun data => settle_eq_ok_iff⟩
  | page schedule options text path =>
    by_cases hidle : options.diagrams = false ∨ (Document.read text path).tree.diagrams = []
    · exact k.pageProper_idle n health w hidle
    · exact k.pageProper_busy n health w rfl (schedule.perm _) hidle

end

/-! ### All operations -/

/-- What is known about the health in the end, and what the operations have done by it. -/
theorem exists_known {τ : Type} (n : Machine Web τ) (ops : List Operation) (health : Option Bool)
    (w : τ) :
    ∃ known, k.Probed health (k.probes ((k.history n ops health w).flatMap (·.exchanges))) known ∧
      ∀ p ∈ k.history n ops health w, k.Proper known p := by
  induction ops generalizing health w with
  | nil => exact ⟨health, .unasked health, fun p hp => nomatch hp⟩
  | cons o rest ih =>
    rcases k.proper_run n health w o with ⟨hprobed, hproper⟩
    rcases ih _ _ with ⟨known, hrest, hall⟩
    refine ⟨known, ?_, ?_⟩
    · rw [history, List.flatMap_cons, probes, List.filter_append]
      exact hprobed.trans hrest
    · -- What the first operation has made known, the others leave so.
      intro p hp
      rcases List.mem_cons.1 hp with rfl | hp
      · exact hproper.imp fun b hb => hrest.of_some hb
      · exact hall p hp

theorem operations_history {τ : Type} (n : Machine Web τ) (ops : List Operation)
    (health : Option Bool) (w : τ) : (k.history n ops health w).map (·.operation) = ops := by
  induction ops generalizing health w with
  | nil => rfl
  | cons o rest ih =>
    rw [history, List.map_cons, ih]

/-- Over any history there is one health request at most, and its reply decides what all
operations do: whether the server is available is what it says, and a page with diagrams has its
images asked for if it says so. -/
theorem history_proper {τ : Type} (n : Machine Web τ) (ops : List Operation) (w : τ) :
    let h := k.history n ops none w
    h.map (·.operation) = ops ∧
      ∃ probe : Option Reply,
        k.probes (h.flatMap (·.exchanges)) = probe.toList.map (⟨k.healthRequest, ·⟩) ∧
          ∀ p ∈ h, k.Proper (probe.map healthy) p := by
  intro h
  rcases k.exists_known n ops none w with ⟨known, hprobed, hproper⟩
  rcases hprobed.exists_probe with ⟨probe, hprobes, rfl⟩
  exact ⟨k.operations_history n ops none w, probe, hprobes, hproper⟩

/-- A server that is healthy at first, and then no more. -/
def fickle : Machine Web Nat where
  answer _ count := (.ok ⟨if count = 0 then 200 else 503, .ok []⟩, count + 1)

/-- The second question about its health is answered by the reply to the first one. -/
example :
    let h := history ⟨"https://kroki.io"⟩ fickle [.available, .render "graph TD", .available] none 0
    h.map (·.exchanges.length) = [1, 1, 0] := by
  decide +kernel

end Diagram.Kroki

end WikiSync
