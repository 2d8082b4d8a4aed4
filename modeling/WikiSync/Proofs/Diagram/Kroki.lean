import WikiSync.Diagram.Kroki
import WikiSync.Proofs.Diagram.Attach
import WikiSync.Proofs.Script.Fresh
import WikiSync.Proofs.Script.Once
import WikiSync.Proofs.Script.Serve
import WikiSync.Proofs.Text.Utf8

/-!
# Health and Images of a Server

What a diagram server is asked for, and what its replies decide. A question to the backend
belongs to one request. Whether the server is available belongs to the health request, which
is sent only while nothing is known. Every source belongs to a request of its own.

What is known about the health moves in one direction: from nothing to what the reply to the
health request says. The step is one question to the backend, and the run of any script is a
chain of such steps (`probed_serve`). So there is one health request at most, however the
questions are mixed.

## Main definitions

* `Kroki.Reply`, `Kroki.healthy`, `Kroki.settle`: What replies decide.
* `Kroki.Accepted`: An image in a reply.
* `Kroki.Probed`: How the health becomes known.
* `Kroki.given`: A server whose replies are given in advance.

## Theorems

* `Kroki.settle_eq_ok_iff`: The images that are accepted.
* `Kroki.Probed.trans`, `Kroki.probed_serve`: The health requests of a run.
* `Kroki.isSome_serve`: What is known once the backend has been asked.
* `Kroki.asked_serve`: The requests for images.
* `Kroki.exists_given`: Replies in advance.
-/

namespace WikiSync.Diagram.Kroki

variable (k : Kroki)

/-! ### Requests and replies -/

/-- What comes back for a request. -/
abbrev Reply := Except String WebResponse

def healthRequest : WebRequest :=
  ⟨.get, k.healthUrl, [], []⟩

def renderRequest (source : String) : WebRequest :=
  ⟨.post, k.renderUrl, [("content-type", "text/plain")], Text.utf8 source⟩

/-- The request that belongs to a question. -/
def request : Request → WebRequest
  | .available => k.healthRequest
  | .render source => k.renderRequest source

/-- What a reply says about the health of the server. -/
def healthy : Reply → Bool
  | .ok r => r.isSuccess
  | .error _ => false

/-- What a reply gives in place of an image. -/
def settle : Reply → Except RenderError Bytes
  | .ok r => image r
  | .error reason => .error (.http reason)

/-- A reply brings an image: it reports no error, and its body has the signature of an image
and at least a header. -/
def Accepted (reply : Reply) (data : Bytes) : Prop :=
  ∃ r, reply = .ok r ∧ r.status < 400 ∧ r.body = .ok data ∧ 24 ≤ data.length ∧
    pngSignature <+: data

theorem isImage_iff (data : Bytes) :
    isImage data = true ↔ 24 ≤ data.length ∧ pngSignature <+: data := by
  rw [isImage, Bool.and_eq_true, decide_eq_true_eq, beq_iff_eq, List.prefix_iff_eq_take]
  exact and_congr_right fun _ => eq_comm

/-- The images that are accepted. -/
theorem settle_eq_ok_iff {reply : Reply} {data : Bytes} :
    settle reply = .ok data ↔ Accepted reply data := by
  rcases reply with reason | r
  · constructor
    · intro h
      cases h
    · rintro ⟨r, hr, -⟩
      cases hr
  · change image r = .ok data ↔ _
    unfold image
    constructor
    · intro h
      split at h
      · cases h
      · next hstatus =>
        rw [WebResponse.isError, decide_eq_true_eq, Nat.not_le] at hstatus
        split at h
        · cases h
        · next body hbody =>
          split at h
          · next himage =>
            cases h
            exact ⟨r, rfl, hstatus, hbody, (isImage_iff data).1 himage⟩
          · cases h
    · rintro ⟨r', hr, hstatus, hbody, himage⟩
      cases hr
      have hfine : r.isError = false := by
        rw [WebResponse.isError, decide_eq_false_iff_not, Nat.not_le]
        exact hstatus
      simp only [hfine, hbody, (isImage_iff data).2 himage, Bool.false_eq_true, if_false, if_true]

theorem renderRequest_ne (source : String) : k.renderRequest source ≠ k.healthRequest :=
  fun h => nomatch congrArg WebRequest.method h

/-- Different questions take different requests. -/
theorem request_injective : Function.Injective k.request := by
  intro q q' h
  cases q with
  | available =>
    cases q' with
    | available => rfl
    | render source => exact absurd h.symm (k.renderRequest_ne source)
  | render source =>
    cases q' with
    | available => exact absurd h (k.renderRequest_ne source)
    | render source' =>
      have hbody : Text.utf8 source = Text.utf8 source' := congrArg WebRequest.body h
      have htext := congrArg Text.ofUtf8? hbody
      rw [Text.ofUtf8?_utf8, Text.ofUtf8?_utf8] at htext
      exact congrArg Request.render (Option.some.inj htext)

/-! ### One question -/

section

variable {τ : Type} (n : Machine Web τ) (w : τ)

/-- A request that is sent, and what is done with its reply. -/
theorem run_send (r : WebRequest) {α : Type} (f : Reply → Script Web α) :
    ((r.send >>= f).run n w).value = ((f (n.answer r w).1).run n (n.answer r w).2).value ∧
      (r.send >>= f).exchanges n w =
        ⟨r, (n.answer r w).1⟩ :: (f (n.answer r w).1).exchanges n (n.answer r w).2 :=
  ⟨rfl, rfl⟩

theorem run_probe :
    (k.probe.run n w).value = healthy (n.answer k.healthRequest w).1 ∧
      k.probe.exchanges n w = [⟨k.healthRequest, (n.answer k.healthRequest w).1⟩] := by
  have hprobe : k.probe = k.healthRequest.send >>= _ := rfl
  rcases run_send n w k.healthRequest _ with ⟨hvalue, hexchanges⟩
  rw [hprobe, hvalue, hexchanges]
  rcases (n.answer k.healthRequest w).1 with reason | r
  · exact ⟨rfl, rfl⟩
  · -- Either way nothing more is sent.
    simp only [healthy]
    rcases r.isSuccess with _ | _
    · exact ⟨rfl, rfl⟩
    · exact ⟨rfl, rfl⟩

theorem run_render (source : String) :
    ((k.render source).run n w).value = settle (n.answer (k.renderRequest source) w).1 ∧
      (k.render source).exchanges n w =
        [⟨k.renderRequest source, (n.answer (k.renderRequest source) w).1⟩] := by
  have hrender : k.render source = (k.renderRequest source).send >>= _ := rfl
  rcases run_send n w (k.renderRequest source) _ with ⟨hvalue, hexchanges⟩
  rw [hrender, hvalue, hexchanges]
  rcases (n.answer (k.renderRequest source) w).1 with reason | r
  · exact ⟨rfl, rfl⟩
  · exact ⟨rfl, rfl⟩

/-- Asking for an image changes nothing that is known about the health. -/
theorem run_answer_render (source : String) (health : Option Bool) :
    ((k.answer (.render source) health).run n w).value =
        (settle (n.answer (k.renderRequest source) w).1, health) ∧
      (k.answer (.render source) health).exchanges n w =
        [⟨k.renderRequest source, (n.answer (k.renderRequest source) w).1⟩] := by
  have hanswer : k.answer (.render source) health =
      k.render source >>= fun result => pure (result, health) := rfl
  rcases k.run_render n w source with ⟨hvalue, hexchanges⟩
  rw [hanswer, Script.run_bind, Script.exchanges_bind, hvalue, hexchanges]
  exact ⟨rfl, rfl⟩

/-- While nothing is known, the first question about the health sends a request. -/
theorem run_answer_available :
    ((k.answer .available none).run n w).value =
        (healthy (n.answer k.healthRequest w).1, some (healthy (n.answer k.healthRequest w).1)) ∧
      (k.answer .available none).exchanges n w =
        [⟨k.healthRequest, (n.answer k.healthRequest w).1⟩] := by
  have hanswer : k.answer .available none =
      k.probe >>= fun healthy => pure (healthy, some healthy) := rfl
  rcases k.run_probe n w with ⟨hvalue, hexchanges⟩
  rw [hanswer, Script.run_bind, Script.exchanges_bind, hvalue, hexchanges]
  exact ⟨rfl, rfl⟩

end

/-- A question sends no other request than the one that belongs to it, and that one at most
once. -/
theorem answer_once (q : Request) (health : Option Bool) :
    (k.answer q health).Asks (· = k.request q) ∧
      ∀ past : WebRequest → Prop, ¬ past (k.request q) → (k.answer q health).AsksFresh past := by
  cases q with
  | available =>
    rcases health with _ | b
    · refine Script.asks_question_bind (I := Web) k.healthRequest fun reply => ?_
      rcases reply with reason | r
      · trivial
      · simp only [Script.bind]
        rcases r.isSuccess with _ | _
        · trivial
        · trivial
    · exact ⟨trivial, fun _ _ => trivial⟩
  | render source =>
    refine Script.asks_question_bind (I := Web) (k.renderRequest source) fun reply => ?_
    rcases reply with reason | r
    · trivial
    · trivial

/-! ### The health request -/

/-- The health requests among exchanges. -/
def probes (es : List (Exchange Web)) : List (Exchange Web) :=
  es.filter (·.question = k.healthRequest)

/-- The other requests among exchanges. -/
def renders (es : List (Exchange Web)) : List (Exchange Web) :=
  es.filter (·.question ≠ k.healthRequest)

/-- How the health becomes known: what was known before, the health requests meanwhile, and
what is known after them. -/
inductive Probed : Option Bool → List (Exchange Web) → Option Bool → Prop
  | unasked (health : Option Bool) : Probed health [] health
  | asked (reply : Reply) : Probed none [⟨k.healthRequest, reply⟩] (some (healthy reply))

namespace Probed

variable {k}

/-- Nothing is known in front of a health request, but something behind it. So of two parts
only one can have sent it. -/
theorem trans {health between after : Option Bool} {es es' : List (Exchange Web)}
    (hfirst : k.Probed health es between) (hrest : k.Probed between es' after) :
    k.Probed health (es ++ es') after := by
  cases hfirst with
  | unasked => exact hrest
  | asked reply =>
    cases hrest with
    | unasked => exact .asked reply

/-- What is known stays. -/
theorem of_some {b : Bool} {health after : Option Bool} {es : List (Exchange Web)}
    (h : k.Probed health es after) (hb : health = some b) : after = some b := by
  cases h with
  | unasked => exact hb
  | asked reply => cases hb

/-- What is known in the end, if the replies are known. -/
theorem eq_getD {health after : Option Bool} {es : List (Exchange Web)} {reply : WebRequest → Reply}
    (h : k.Probed health es after) (hreply : ∀ e ∈ es, e.answer = reply e.question)
    (hsome : after.isSome) : after = some (health.getD (healthy (reply k.healthRequest))) := by
  cases h with
  | unasked =>
    rcases Option.isSome_iff_exists.1 hsome with ⟨b, rfl⟩
    rfl
  | asked first =>
    have hfirst : first = reply k.healthRequest := hreply ⟨_, first⟩ List.mem_cons_self
    rw [hfirst, Option.getD_none]

/-- The whole history of the health, from the start. -/
theorem exists_probe {es : List (Exchange Web)} {after : Option Bool}
    (h : k.Probed none es after) :
    ∃ probe : Option Reply, es = probe.toList.map (⟨k.healthRequest, ·⟩) ∧
      after = probe.map healthy := by
  cases h with
  | unasked => exact ⟨none, rfl, rfl⟩
  | asked reply => exact ⟨some reply, rfl, rfl⟩

end Probed

section

variable {τ α : Type} (n : Machine Web τ)

/-- One question to the backend. -/
theorem probed_answer (q : Request) (health : Option Bool) (w : τ) :
    k.Probed health (k.probes ((k.answer q health).exchanges n w))
      ((k.answer q health).run n w).value.2 := by
  cases q with
  | available =>
    rcases health with _ | b
    · rcases k.run_answer_available n w with ⟨hvalue, hexchanges⟩
      rw [hvalue, hexchanges, probes, List.filter_singleton]
      simp only [decide_true]
      exact .asked _
    · exact .unasked (some b)
  | render source =>
    rcases k.run_answer_render n w source health with ⟨hvalue, hexchanges⟩
    rw [hvalue, hexchanges, probes, List.filter_singleton]
    simp only [k.renderRequest_ne source, decide_false]
    exact .unasked health

/-- The run of a script. -/
theorem probed_serve (x : Script Backend α) (health : Option Bool) (w : τ) :
    k.Probed health (k.probes ((x.serve k.answer health).exchanges n w))
      ((x.serve k.answer health).run n w).value.2 := by
  -- The induction is on the script; what is known goes from the first question to the rest.
  induction x generalizing health w with
  | done value => exact .unasked health
  | note entry next ih => exact ih health w
  | ask q next ih =>
    rw [Script.serve_ask, Script.run_bind, Script.exchanges_bind, probes, List.filter_append]
    exact (k.probed_answer n q health w).trans (ih _ _ _)

/-- What is known once a script has asked whether the server is available. -/
theorem isSome_serve (x : Script Backend α) (health : Option Bool) (w : τ)
    (hasked : .available ∈ (x.run (n.serving k.answer) (w, health)).asked) :
    (((x.serve k.answer health).run n w).value.2).isSome := by
  induction x generalizing health w with
  | done value => exact nomatch hasked
  | note entry next ih => exact ih health w hasked
  | ask q next ih =>
    have hrest := ih ((k.answer q health).run n w).value.1 ((k.answer q health).run n w).value.2
      ((k.answer q health).run n w).state
    have hafter := k.probed_serve n (next ((k.answer q health).run n w).value.1)
      ((k.answer q health).run n w).value.2 ((k.answer q health).run n w).state
    rw [Script.serve_ask, Script.run_bind]
    change Option.isSome (Prod.snd (Run.value _)) = true
    rcases List.mem_cons.1 hasked with heq | hlater
    · -- This question makes it known, and the others leave it so.
      have hknown : (((k.answer q health).run n w).value.2).isSome := by
        rw [← heq]
        rcases health with _ | b
        · rw [(k.run_answer_available n w).1]
          rfl
        · rfl
      rcases Option.isSome_iff_exists.1 hknown with ⟨b, hb⟩
      exact Option.isSome_iff_exists.2 ⟨b, hafter.of_some hb⟩
    · exact hrest hlater

/-- The requests for images are those for the sources that the script asks for. -/
theorem asked_serve (x : Script Backend α) (health : Option Bool) (w : τ) :
    ((x.serve k.answer health).run n w).asked.filter (· ≠ k.healthRequest) =
      ((x.run (n.serving k.answer) (w, health)).asked.filter (· ≠ .available)).map k.request := by
  refine Script.filter_asked_serve n k.answer k.request (fun q h w => ?_) x health w
  rw [Script.asked_eq_exchanges]
  cases q with
  | available =>
    rcases h with _ | b
    · rw [(k.run_answer_available n w).2]
      simp
    · rfl
  | render source =>
    rw [(k.run_answer_render n w source h).2]
    simp [request, k.renderRequest_ne source]

end

/-! ### Replies in advance -/

section

variable {α : Type} (reply : WebRequest → Reply)

/-- The backend of a server whose replies are given in advance. -/
def given : Machine Backend (Unit × Option Bool) :=
  (Machine.fixed reply).serving k.answer

theorem rendersBy_given :
    RendersBy (k.given reply) fun text => settle (reply (k.renderRequest text)) :=
  fun text s => congrArg Prod.fst (k.run_answer_render (.fixed reply) s.1 text s.2).1

theorem available_given (health : Option Bool) :
    ((k.given reply).answer .available ((), health)).1 =
      health.getD (healthy (reply k.healthRequest)) := by
  rcases health with _ | b
  · exact congrArg Prod.fst (k.run_answer_available (.fixed reply) ()).1
  · rfl

theorem filter_asked_texts (texts : List String) :
    (Request.available :: texts.map .render).filter (· ≠ .available) = texts.map .render := by
  rw [List.filter_cons_of_neg (by simp), List.filter_eq_self]
  intro q hq
  rcases List.mem_map.1 hq with ⟨text, -, rfl⟩
  rfl

/-- A script that asks nothing twice cannot tell a server from one whose replies are given in
advance. What is sent for it are the requests that belong to its questions. -/
theorem exists_given {τ : Type} (n : Machine Web τ) {x : Script Backend α}
    (hx : x.AsksFresh fun _ => False) (health : Option Bool) (w : τ) :
    ∃ reply : WebRequest → Reply,
      let y := x.serve k.answer health
      let r := x.run (k.given reply) ((), health)
      (y.run n w).value.1 = r.value ∧
        (.available ∈ r.asked →
          (y.run n w).value.2 = some (health.getD (healthy (reply k.healthRequest)))) ∧
        k.renders (y.exchanges n w) =
          (r.asked.filter (· ≠ .available)).map fun q => ⟨k.request q, reply (k.request q)⟩ := by
  rcases (hx.serve k.request_injective k.answer_once health).exists_fixed n w with
    ⟨reply, hvalue, hasked, hexchanges⟩
  refine ⟨reply, ?_, fun havailable => ?_, ?_⟩
  · rw [hvalue]
    exact congrArg Prod.fst (Script.run_serve (I := Backend) (.fixed reply) k.answer x health ()).1
  · -- A health request has the reply that is given, and once asked, something is known.
    refine (k.probed_serve n x health w).eq_getD (fun e he => ?_) ?_
    · have hmem := (List.mem_filter.1 he).1
      rw [hexchanges] at hmem
      rcases List.mem_map.1 hmem with ⟨q, -, rfl⟩
      rfl
    · rw [hvalue]
      exact k.isSome_serve (.fixed reply) x health () havailable
  · have hother := congrArg (List.map fun q => (⟨q, reply q⟩ : Exchange Web))
      (k.asked_serve (.fixed reply) x health ())
    rw [List.map_map, ← hasked] at hother
    rw [hexchanges, renders, List.filter_map]
    exact hother

end

end WikiSync.Diagram.Kroki
